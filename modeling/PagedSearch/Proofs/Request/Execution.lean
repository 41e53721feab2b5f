import PagedSearch.Request.Searcher
import PagedSearch.Proofs.Ranking.Pages

/-!
# Executing requests

A request goes through steps that may fail, each on its own terms, and the first failure is what it
ends with. A session is opened after the steps that need none, and the guard closes it however the
later ones end.
-/

namespace PagedSearch

inductive SearchStep where
  | validate
  | query
  | sortGrammar
  | openIndex
  | fieldMembership
  | search
deriving DecidableEq

namespace SearchStep

def place : SearchStep → Nat
  | validate => 0
  | query => 1
  | sortGrammar => 2
  | openIndex => 3
  | fieldMembership => 4
  | search => 5

private theorem place_injective {a b : SearchStep} (h : a.place = b.place) : a = b := by
  cases a <;> cases b <;> simp [place] at h ⊢

end SearchStep

namespace SessionGuard

theorem drop_release (guard : SessionGuard) (counters : SessionCounts) :
    (guard.release counters).2.drop (guard.release counters).1 = (guard.release counters).1 := by
  have hreleased : (guard.release counters).2.released = true := by
    unfold release
    split
    · assumption
    · rfl
  rw [drop, release, if_pos hreleased]

private theorem release_ofSession (location : String) (index : Index) (counters : SessionCounts) :
    ((ofSession ⟨location, index, false⟩).release counters).1 = counters.countClosed := rfl

end SessionGuard

namespace Searcher

variable {service : Searcher} {request : Request} {counters : SessionCounts}

/-- The error with which a step of a request fails. Each step is looked at by itself; one that lacks
what an earlier step would have handed on does not fail. -/
def faultAt (service : Searcher) (request : Request) (step : SearchStep) : Option SearchError :=
  let query := Query.parse ⟨service.analyzer, request.fields⟩ request.query
  let spec := SortSpec.ofText service.registry request.sort
  let index := service.source.load request.location
  match step with
  | .validate =>
    match request.check with
    | .error fault => some (.request fault)
    | .ok () => none
  | .query =>
    match query with
    | .error fault => some (.query request.query fault)
    | .ok _ => none
  | .sortGrammar =>
    match spec with
    | .error fault => some (.sort fault)
    | .ok _ => none
  | .openIndex =>
    match index with
    | .error fault => some (.index fault)
    | .ok _ => none
  | .fieldMembership =>
    match spec, index with
    | .ok spec, .ok index =>
      match spec.checkFields index.fieldNames with
      | .error fault => some (.sort fault)
      | .ok () => none
    | _, _ => none
  | .search =>
    match query, spec, index with
    | .ok query, .ok spec, .ok index =>
      match Session.pageOfQuery ⟨request.location, index, false⟩ query spec request.start
        request.size with
      | .error fault => some (.order fault)
      | .ok _ => none
    | _, _, _ => none

structure FailsFirst (service : Searcher) (request : Request) (step : SearchStep)
    (e : SearchError) : Prop where
  fails : service.faultAt request step = some e
  first : ∀ earlier : SearchStep, earlier.place < step.place →
    service.faultAt request earlier = none

/-- What a request has to pass before a session is opened for it. -/
structure Opens (service : Searcher) (request : Request) : Prop where
  validated : request.check = .ok ()
  parsed : ∃ query, Query.parse ⟨service.analyzer, request.fields⟩ request.query = .ok query
  sorted : ∃ spec, SortSpec.ofText service.registry request.sort = .ok spec
  located : ∃ index, service.source.load request.location = .ok index

def countsAfter (service : Searcher) (requests : List Request) : SessionCounts :=
  requests.foldl (fun counters request => (service.execute counters request).1) .zero

structure Prepared (service : Searcher) (request : Request) (query : Query) (spec : SortSpec) :
    Prop where
  check : request.check = .ok ()
  query : Query.parse ⟨service.analyzer, request.fields⟩ request.query = .ok query
  spec : SortSpec.ofText service.registry request.sort = .ok spec

private theorem prepare_cases (service : Searcher) (request : Request) :
    (¬ service.Opens request ∧ ∃ step e, service.FailsFirst request step e ∧
      service.prepare request = .error e) ∨
    ∃ query spec, service.Prepared request query spec ∧
      service.prepare request = .ok (query, spec) := by
  rcases hcheck : request.check with fault | ⟨⟩
  · refine .inl ⟨fun h => ?_, .validate, .request fault, ⟨?_, ?_⟩, ?_⟩
    · rw [h.validated] at hcheck
      cases hcheck
    · simp only [faultAt, hcheck]
    · intro earlier hlt
      exact absurd hlt (Nat.not_lt_zero _)
    · simp only [prepare, hcheck]
      rfl
  rcases hquery : Query.parse ⟨service.analyzer, request.fields⟩ request.query with fault | query
  · refine .inl ⟨fun h => ?_, .query, .query request.query fault, ⟨?_, ?_⟩, ?_⟩
    · obtain ⟨query, hok⟩ := h.parsed
      rw [hok] at hquery
      cases hquery
    · simp only [faultAt, hquery]
    · rintro ⟨⟩ hlt <;> simp [SearchStep.place] at hlt
      simp only [faultAt, hcheck]
    · simp only [prepare, hcheck, hquery]
      rfl
  rcases hspec : SortSpec.ofText service.registry request.sort with fault | spec
  · refine .inl ⟨fun h => ?_, .sortGrammar, .sort fault, ⟨?_, ?_⟩, ?_⟩
    · obtain ⟨spec, hok⟩ := h.sorted
      rw [hok] at hspec
      cases hspec
    · simp only [faultAt, hspec]
    · rintro ⟨⟩ hlt <;> simp [SearchStep.place] at hlt
      · simp only [faultAt, hcheck]
      · simp only [faultAt, hquery]
    · simp only [prepare, hcheck, hquery, hspec]
      rfl
  refine .inr ⟨query, spec, ⟨hcheck, hquery, hspec⟩, ?_⟩
  simp only [prepare, hcheck, hquery, hspec]
  rfl

/-- A request for which no session is opened leaves the counters alone. Once a session is open, the
answer is found on it and the session is closed, whatever the answer is. -/
theorem execute_cases (service : Searcher) (counters : SessionCounts) (request : Request) :
    (¬ service.Opens request ∧ ∃ step e, service.FailsFirst request step e ∧
      service.execute counters request = (counters, .error e)) ∨
    (service.Opens request ∧ ∃ query spec index, service.Prepared request query spec ∧
      service.source.load request.location = .ok index ∧
      service.execute counters request = (⟨counters.opened + 1, counters.closed + 1⟩,
        service.answer request query spec ⟨request.location, index, false⟩)) := by
  rcases prepare_cases service request with
    ⟨hopens, step, e, hfirst, herror⟩ | ⟨query, spec, hprepared, hprepare⟩
  · refine .inl ⟨hopens, step, e, hfirst, ?_⟩
    simp only [execute, herror]
  rcases hload : service.source.load request.location with fault | index
  · refine .inl ⟨fun h => ?_, .openIndex, .index fault, ⟨?_, ?_⟩, ?_⟩
    · obtain ⟨index, hok⟩ := h.located
      rw [hok] at hload
      cases hload
    · simp only [faultAt, hload]
    · rintro ⟨⟩ hlt <;> simp [SearchStep.place] at hlt
      · simp only [faultAt, hprepared.check]
      · simp only [faultAt, hprepared.query]
      · simp only [faultAt, hprepared.spec]
    · simp only [execute, hprepare, IndexSource.openSession, hload]
      rfl
  · have hopens : service.Opens request :=
      ⟨hprepared.check, ⟨query, hprepared.query⟩, ⟨spec, hprepared.spec⟩, index, hload⟩
    let guard := SessionGuard.ofSession ⟨request.location, index, false⟩
    let released := guard.release counters.countOpened
    have hrun : service.execute counters request = (released.2.drop released.1,
        service.answer request query spec ⟨request.location, index, false⟩) := by
      simp only [execute, hprepare, IndexSource.openSession, hload, Except.map]
      rfl
    refine .inr ⟨hopens, query, spec, index, hprepared, rfl, ?_⟩
    rw [hrun, SessionGuard.drop_release, SessionGuard.release_ofSession]
    rfl

private theorem answer_cases {query : Query} {spec : SortSpec} {index : Index}
    (hprepared : service.Prepared request query spec)
    (hload : service.source.load request.location = .ok index) :
    (∃ step e, service.FailsFirst request step e ∧
      service.answer request query spec ⟨request.location, index, false⟩ = .error e) ∨
    ((∀ step, service.faultAt request step = none) ∧ ∃ page,
      Session.pageOfQuery ⟨request.location, index, false⟩ query spec request.start request.size =
        .ok page ∧
      service.answer request query spec ⟨request.location, index, false⟩ =
        .ok (request.resultDocument service.analyzer query page)) := by
  obtain ⟨hcheck, hquery, hspec⟩ := hprepared
  have hnames : Session.fieldNames ⟨request.location, index, false⟩ = .ok index.fieldNames := rfl
  have hbefore : ∀ step : SearchStep, step.place < 4 → service.faultAt request step = none := by
    rintro ⟨⟩ hlt <;> simp [SearchStep.place] at hlt
    · simp only [faultAt, hcheck]
    · simp only [faultAt, hquery]
    · simp only [faultAt, hspec]
    · simp only [faultAt, hload]
  rcases hknown : spec.checkFields index.fieldNames with fault | ⟨⟩
  · refine .inl ⟨.fieldMembership, .sort fault, ⟨?_, hbefore⟩, ?_⟩
    · simp only [faultAt, hspec, hload, hknown]
    · simp only [answer, hnames, Except.mapError, bind, Except.bind, hknown]
  have hmembers : service.faultAt request .fieldMembership = none := by
    simp only [faultAt, hspec, hload, hknown]
  rcases hpage : Session.pageOfQuery ⟨request.location, index, false⟩ query spec request.start
    request.size with fault | page
  · refine .inl ⟨.search, .order fault, ⟨?_, ?_⟩, ?_⟩
    · simp only [faultAt, hquery, hspec, hload, hpage]
    · intro earlier hlt
      rcases Nat.lt_or_eq_of_le (Nat.le_of_lt_succ hlt) with hlt | heq
      · exact hbefore earlier hlt
      · obtain rfl : earlier = .fieldMembership := SearchStep.place_injective heq
        exact hmembers
    · simp only [answer, hnames, Except.mapError, bind, Except.bind, hknown, hpage]
  · refine .inr ⟨?_, page, rfl, ?_⟩
    · intro step
      cases step with
      | fieldMembership => exact hmembers
      | search => simp only [faultAt, hquery, hspec, hload, hpage]
      | validate | query | sortGrammar | openIndex => exact hbefore _ (by decide)
    · simp only [answer, hnames, Except.mapError, bind, Except.bind, hknown, hpage]
      rfl

private theorem FailsFirst.unique {step other : SearchStep} {e f : SearchError}
    (h : service.FailsFirst request step e) (ho : service.FailsFirst request other f) : e = f := by
  rcases Nat.lt_trichotomy step.place other.place with hlt | heq | hgt
  · have hnone := ho.first step hlt
    rw [h.fails] at hnone
    cases hnone
  · obtain rfl := SearchStep.place_injective heq
    exact Option.some.inj (h.fails.symm.trans ho.fails)
  · have hnone := h.first other hgt
    rw [ho.fails] at hnone
    cases hnone

/-- The error of a request is that of the first step to fail. -/
theorem execute_eq_error_iff {e : SearchError} :
    (service.execute counters request).2 = .error e ↔
      ∃ step, service.FailsFirst request step e := by
  -- a run ends either with a first failure or with a document and no failure at all
  have hcases : (∃ step f, service.FailsFirst request step f ∧
        (service.execute counters request).2 = .error f) ∨
      (∀ step, service.faultAt request step = none) ∧
        ∃ document, (service.execute counters request).2 = .ok document := by
    rcases execute_cases service counters request with
      ⟨_, step, f, hfirst, hrun⟩ | ⟨_, query, spec, index, hprepared, hload, hrun⟩
    · exact .inl ⟨step, f, hfirst, by rw [hrun]⟩
    · rw [hrun]
      rcases answer_cases hprepared hload with hfails | ⟨hnone, page, _, hok⟩
      · exact .inl hfails
      · exact .inr ⟨hnone, _, hok⟩
  rcases hcases with ⟨step, f, hfirst, herror⟩ | ⟨hnone, document, hok⟩
  · rw [herror]
    constructor
    · intro h
      rw [← Except.error.inj h]
      exact ⟨step, hfirst⟩
    · rintro ⟨other, h⟩
      rw [hfirst.unique h]
  · rw [hok]
    constructor
    · intro h
      cases h
    · rintro ⟨step, h⟩
      have hsome := h.fails
      rw [hnone step] at hsome
      cases hsome

private theorem blamesInput_iff_of_faultAt {step : SearchStep} {e : SearchError}
    (h : service.faultAt request step = some e) :
    e.blamesInput = true ↔
      step ∈ [SearchStep.validate, .query, .sortGrammar, .fieldMembership] := by
  have hsort (fault : SortFault) : (SearchError.sort fault).blamesInput = true := by
    cases fault <;> rfl
  cases step with
  | validate =>
    simp only [faultAt] at h
    split at h <;> cases h
    exact iff_of_true rfl (by decide)
  | query =>
    simp only [faultAt] at h
    split at h <;> cases h
    exact iff_of_true rfl (by decide)
  | sortGrammar =>
    simp only [faultAt] at h
    split at h <;> cases h
    exact iff_of_true (hsort _) (by decide)
  | openIndex =>
    simp only [faultAt] at h
    split at h <;> cases h
    exact iff_of_false Bool.false_ne_true (by decide)
  | fieldMembership =>
    simp only [faultAt] at h
    split at h
    · split at h <;> cases h
      exact iff_of_true (hsort _) (by decide)
    · cases h
  | search =>
    simp only [faultAt] at h
    split at h
    · split at h
      · rename_i hpage
        cases h
        refine iff_of_false ?_ (by decide)
        rw [SearchError.blamesInput, SearchError.kind, Session.kind_of_pageOfQuery_error hpage]
        decide
      · cases h
    · cases h

private theorem closed_execute (h : counters.closed = counters.opened) :
    (service.execute counters request).1.closed = (service.execute counters request).1.opened := by
  rcases execute_cases service counters request with
    ⟨_, step, e, _, hrun⟩ | ⟨_, query, spec, index, _, _, hrun⟩
  · rw [hrun]
    exact h
  · rw [hrun, h]

private theorem closed_countsAfter (service : Searcher) (requests : List Request) :
    (service.countsAfter requests).closed = (service.countsAfter requests).opened := by
  have hrun (counters : SessionCounts) (h : counters.closed = counters.opened) :
      (requests.foldl (fun counters request => (service.execute counters request).1)
        counters).closed =
      (requests.foldl (fun counters request => (service.execute counters request).1)
        counters).opened := by
    induction requests generalizing counters with
    | nil => exact h
    | cons request rest ih => exact ih _ (closed_execute h)
  exact hrun .zero rfl

private theorem ranks_resultDocument (request : Request) (analyzer : Analyzer) (query : Query)
    {page : Page} (hstart : 1 ≤ page.start)
    (hfits : page.hits.length ≤ countLimit - (page.start - 1)) :
    (request.resultDocument analyzer query page).hits.map ResultHit.rank =
      List.range' page.start page.hits.length := by
  apply List.ext_getElem
  · simp [Request.resultDocument]
  · intro i hi _
    have hlt : i < page.hits.length := by simpa [Request.resultDocument] using hi
    -- the last rank is a count, so that the numbering never wraps around
    have hmod : (page.start + i) % (countLimit + 1) = page.start + i :=
      Nat.mod_eq_of_lt (by omega)
    simp [Request.resultDocument, Request.rankAt, hmod]

private theorem start_pos_of_check (h : request.check = .ok ()) : 1 ≤ request.start := by
  rcases Nat.eq_zero_or_pos request.start with hzero | hpos
  · simp [Request.check, SearchSettings.check, hzero] at h
  · exact hpos

/-- After any run of requests all sessions are closed, and the next request opens one if it gets as
far as that. It ends with the error of the first step to fail, or with a page whose hits are
numbered one after the other. -/
theorem execute_after_run (service : Searcher) (earlier : List Request) (request : Request) :
    let before := service.countsAfter earlier
    let run := service.execute before request
    run.1.closed = run.1.opened ∧
    (service.Opens request → run.1.opened = before.opened + 1) ∧
    (¬ service.Opens request → run.1.opened = before.opened) ∧
    (∀ e, run.2 = .error e ↔ ∃ step, service.FailsFirst request step e) ∧
    (∀ step e, service.FailsFirst request step e → (e.blamesInput = true ↔
      step ∈ [SearchStep.validate, .query, .sortGrammar, .fieldMembership])) ∧
    ∀ document, run.2 = .ok document → ∃ query spec index page,
      Query.parse ⟨service.analyzer, request.fields⟩ request.query = .ok query ∧
      SortSpec.ofText service.registry request.sort = .ok spec ∧
      service.source.load request.location = .ok index ∧
      Session.pageOfQuery ⟨request.location, index, false⟩ query spec request.start request.size =
        .ok page ∧
      document.total = (index.hits query).length ∧
      document.hits.map ResultHit.rank = List.range' request.start page.hits.length ∧
      (index.size < countLimit → page.hits.length =
        min document.total (request.start + request.size - 1) - (request.start - 1)) := by
  intro before run
  have hcases := execute_cases service before request
  refine ⟨closed_execute (closed_countsAfter service earlier), ?_, ?_, ?_, ?_, ?_⟩
  · intro hopens
    rcases hcases with ⟨hnot, _⟩ | ⟨_, query, spec, index, _, _, hrun⟩
    · exact absurd hopens hnot
    · exact congrArg (fun result => result.1.opened) hrun
  · intro hnot
    rcases hcases with ⟨_, step, e, _, hrun⟩ | ⟨hopens, _⟩
    · exact congrArg (fun result => result.1.opened) hrun
    · exact absurd hopens hnot
  · intro e
    exact execute_eq_error_iff
  · intro step e h
    exact blamesInput_iff_of_faultAt h.fails
  · intro document hok
    rcases hcases with ⟨_, step, e, _, hrun⟩ | ⟨_, query, spec, index, hprepared, hload, hrun⟩
    · have herror : run.2 = .error e := congrArg Prod.snd hrun
      rw [hok] at herror
      cases herror
    have hanswer : run.2 = service.answer request query spec ⟨request.location, index, false⟩ :=
      congrArg Prod.snd hrun
    rw [hok] at hanswer
    rcases answer_cases hprepared hload with ⟨step, e, _, herror⟩ | ⟨_, page, hpage, hdocument⟩
    · rw [herror] at hanswer
      cases hanswer
    rw [hdocument] at hanswer
    obtain rfl := Except.ok.inj hanswer
    obtain ⟨htotal, hstart, hfits, hlength⟩ := Session.pageOfQuery_eq_ok hpage
    have hpos := start_pos_of_check hprepared.check
    refine ⟨query, spec, index, page, hprepared.query, hprepared.spec, hload, hpage, htotal, ?_, ?_⟩
    · rw [← hstart] at hpos hfits ⊢
      exact ranks_resultDocument request service.analyzer query hpos hfits
    · intro hsize
      have hcount := Index.length_hits_le index query
      exact hlength hpos (by omega)

def penService : Searcher := ⟨.ofIndexes [("pens", pens)], .standard, .builtin⟩

def penRequest : Request :=
  { SearchSettings.standard with
    query := "name:pen", location := "pens", name := none, sort := "name,DOC" }

def penHistory : List Request := [penRequest, { penRequest with location := "pencils" }]

theorem execute_after_run_pens :
    ∃ document,
      (penService.execute (penService.countsAfter penHistory) penRequest).2 = .ok document ∧
      (penService.execute (penService.countsAfter penHistory) penRequest).1 = ⟨2, 2⟩ ∧
      document.total = 2 ∧ document.hits.map ResultHit.rank = [1, 2] := by
  obtain ⟨_, _, _, _, _, hanswer⟩ := execute_after_run penService penHistory penRequest
  have hdocument : ((penService.execute (penService.countsAfter penHistory) penRequest).2.map
      ResultDocument.total).toOption = some 2 := by decide +kernel
  rcases hrun : (penService.execute (penService.countsAfter penHistory) penRequest).2 with
    e | document
  · rw [hrun] at hdocument
    cases hdocument
  rw [hrun] at hdocument
  have htotal : document.total = 2 := Option.some.inj hdocument
  obtain ⟨query, spec, index, page, _, _, hload, _, _, hranks, hlength⟩ := hanswer document hrun
  have hsize : index.size < countLimit := by
    obtain rfl : pens = index := Except.ok.inj hload
    decide +kernel
  refine ⟨document, rfl, by decide +kernel, htotal, ?_⟩
  rw [hranks, hlength hsize, htotal]
  decide

end Searcher

end PagedSearch
