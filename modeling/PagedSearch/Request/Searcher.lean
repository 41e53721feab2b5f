import PagedSearch.Fault.Basic
import PagedSearch.Result.OfPage

/-! # The search service -/

namespace PagedSearch

structure Searcher where
  source : IndexSource
  analyzer : Analyzer
  registry : Registry

namespace Searcher

def prepare (service : Searcher) (request : Request) :
    Except SearchError (Query × SortSpec) := do
  request.check.mapError .request
  let query ← (Query.parse ⟨service.analyzer, request.fields⟩ request.query).mapError
    (.query request.query)
  let spec ← (SortSpec.ofText service.registry request.sort).mapError .sort
  return (query, spec)

def answer (service : Searcher) (request : Request) (query : Query) (spec : SortSpec)
    (session : Session) : Except SearchError ResultDocument := do
  let known ← session.fieldNames.mapError .index
  (spec.checkFields known).mapError .sort
  let page ← (session.pageOfQuery query spec request.start request.size).mapError .order
  return request.resultDocument service.analyzer query page

/-- Executes a request and counts the session that it opens and closes. The session is read under a
guard, which is released once there is a result of either kind, and dropped after that. -/
def execute (service : Searcher) (counters : SessionCounts) (request : Request) :
    SessionCounts × Except SearchError ResultDocument :=
  match service.prepare request with
  | .error e => (counters, .error e)
  | .ok (query, spec) =>
    match service.source.openSession counters request.location with
    | .error fault => (counters, .error (.index fault))
    | .ok (counters, session) =>
      let guard := SessionGuard.ofSession session
      let result := service.answer request query spec guard.session
      let (counters, guard) := guard.release counters
      (guard.drop counters, result)

end Searcher

end PagedSearch
