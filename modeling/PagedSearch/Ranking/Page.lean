import PagedSearch.Ranking.Best

/-!
# Result pages

A search ranks the matches of a query and shows one page of them. Ranks are counted from one.
Counts are words: a sum that would not fit stays at the largest word.
-/

namespace PagedSearch

def countLimit : Nat := Nat.pow 2 64 - 1

def boundedSum (a b : Nat) : Nat := min (a + b) countLimit

structure PageHit where
  id : Nat
  score : Binary32
  fields : List StoredField
deriving DecidableEq

/-- One page of results: the number of all matches, the rank of the first hit that was asked for,
the size of the page, and the hits on it. -/
structure Page where
  total : Nat
  start : Nat
  size : Nat
  hits : List PageHit
deriving DecidableEq

namespace Page

/-- The range of a page in the ranking, counted from zero and without its end. -/
def range (total start size : Nat) : Nat × Nat :=
  let first := start - 1
  let past := min total (boundedSum first size)
  if past ≤ first then (first, first) else (first, past)

end Page

structure Ranking where
  hits : List Hit
  total : Nat
deriving DecidableEq

namespace Session

def rank (session : Session) (query : Query) (spec : SortSpec) (count : Nat) :
    Except OrderFault Ranking := do
  let matching ← (session.hits query).mapError .index
  if spec.isEmpty then
    let c := matching.foldl ScoreCollector.collect (.ofCapacity count)
    return ⟨c.kept, c.total⟩
  else
    let c ← (FieldCollector.ofCapacity count).collectAll spec session matching
    return ⟨c.hits, c.total⟩

def record (session : Session) (hit : Hit) : Except IndexFault PageHit :=
  (session.document hit.id).map fun document => ⟨hit.id, hit.score, document.fields⟩

def page (session : Session) (ranking : Ranking) (start size : Nat) :
    Except IndexFault Page := do
  let (first, past) := Page.range ranking.total start size
  let hits ← ((ranking.hits.take past).drop first).mapM session.record
  return { total := ranking.total, start, size, hits }

def rankedCount (start size : Nat) : Nat := boundedSum start size - 1

def pageOfQuery (session : Session) (query : Query) (spec : SortSpec) (start size : Nat) :
    Except OrderFault Page := do
  let ranking ← session.rank query spec (rankedCount start size)
  (session.page ranking start size).mapError .index

end Session

end PagedSearch
