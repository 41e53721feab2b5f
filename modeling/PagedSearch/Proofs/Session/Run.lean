import Mathlib.Data.Finset.Card
import Mathlib.Data.Finset.Range
import PagedSearch.Fault.Basic
import PagedSearch.Session.Desk

/-!
# Counted sessions

A session can be ended by closing it, by releasing the guard it is under and by dropping that guard,
in any order and more than once. The counters of the provider follow: every open that finds an index
counts once, and so does every session that was ended in one way or another.
-/

namespace PagedSearch

namespace SessionCounts

variable (counters : SessionCounts) (session : Session)

@[simp]
theorem close_opened : (counters.close session).1.opened = counters.opened := by
  rw [close]
  split <;> rfl

@[simp]
theorem close_isClosed : (counters.close session).2.isClosed = true := by
  rw [close]
  split
  case isTrue h => exact h
  case isFalse => rfl

private theorem close_of_isClosed (h : session.isClosed = true) :
    counters.close session = (counters, session) := if_pos h

private theorem close_of_open (h : session.isClosed = false) :
    (counters.close session).1.closed = counters.closed + 1 := by
  rw [close, if_neg (by simp [h])]
  rfl

end SessionCounts

namespace SessionRead

def reaches : SessionRead → Bool
  | count | fields | document _ => true
  | search names text => (Query.parse ⟨.standard, names⟩ text).isOk
  | location | isClosed | isReleased => false

end SessionRead

def SessionAction.opens (source : IndexSource) : SessionAction → Bool
  | openAt location => (source.load location).isOk
  | _ => false

def SessionSlot.Shows (ended : Prop) : SessionSlot → Prop
  | bare session => session.isClosed = true ↔ ended
  | guarded guard => (guard.session.isClosed = true ↔ ended) ∧ (guard.released = true → ended)
  | dropped => True

private theorem SessionSlot.Shows.isClosed_iff {ended : Prop} {slot : SessionSlot}
    {session : Session} (h : slot.Shows ended) (hsession : slot.session? = some session) :
    session.isClosed = true ↔ ended := by
  cases slot with
  | bare other =>
    obtain rfl : other = session := Option.some.inj hsession
    exact h
  | guarded guard =>
    obtain rfl : guard.session = session := Option.some.inj hsession
    exact h.1
  | dropped => cases hsession

namespace SessionDesk

def session? (desk : SessionDesk) (number : Nat) : Option Session :=
  desk.slots[number]?.bind SessionSlot.session?

def isGuarded (desk : SessionDesk) (number : Nat) : Bool :=
  match desk.slots[number]? with
  | some (.guarded _) => true
  | _ => false

/-- The session that an operation ends: one that it closes, or one whose guard it releases or
drops. -/
def ending? (desk : SessionDesk) : SessionAction → Option Nat
  | .close number => if (desk.session? number).isSome then some number else none
  | .release number | .drop number => if desk.isGuarded number then some number else none
  | .openAt _ | .read .. | .guard _ => none

def endings (desk : SessionDesk) : List SessionAction → List Nat
  | [] => []
  | action :: rest => (desk.ending? action).toList ++ (desk.perform action).1.endings rest

/-- The counters and the slots of a desk on which some sessions were opened and some of them
ended. -/
structure Tracks (desk : SessionDesk) (count : Nat) (ended : List Nat) : Prop where
  opened : desk.counters.opened = count
  closed : desk.counters.closed = ended.toFinset.card
  size : desk.slots.size = count
  bound : ∀ number ∈ ended, number < count
  shows : ∀ number (slot : SessionSlot), desk.slots[number]? = some slot → slot.Shows (number ∈ ended)

variable {desk : SessionDesk} {count number : Nat} {ended : List Nat} {slot after : SessionSlot}
  {session : Session}

private theorem exists_slot_of_session? (h : desk.session? number = some session) :
    ∃ slot, desk.slots[number]? = some slot ∧ slot.session? = some session :=
  Option.bind_eq_some_iff.mp h

private theorem reply_of_isClosed {what : SessionRead} (h : desk.session? number = some session)
    (hclosed : session.isClosed = true) (hreaches : what.reaches = true) :
    (desk.perform (.read number what)).2 = .fault (.closed session.location) := by
  obtain ⟨slot, hslot, hsession⟩ := exists_slot_of_session? h
  have hread {α : Type} (f : Index → α) : session.read f = .error (.closed session.location) :=
    if_pos hclosed
  simp only [perform, hslot, hsession]
  cases what with
  | count => simp only [answer, Session.documentCount, hread, replyOf]
  | fields => simp only [answer, Session.fieldNames, hread, replyOf]
  | document id => simp only [answer, Session.document, hread, replyOf, bind, Except.bind]
  | search names text =>
    rw [SessionRead.reaches] at hreaches
    rw [answer]
    cases hquery : Query.parse ⟨.standard, names⟩ text with
    | error fault => simp [hquery, Except.isOk, Except.toBool] at hreaches
    | ok query => simp only [Session.hits, hread, replyOf]
  | location | isClosed | isReleased => cases hreaches

private theorem reply_of_open (h : desk.session? number = some session)
    (hopen : session.isClosed = false) (what : SessionRead) (location : String) :
    (desk.perform (.read number what)).2 ≠ .fault (.closed location) := by
  obtain ⟨slot, hslot, hsession⟩ := exists_slot_of_session? h
  have hread {α : Type} (f : Index → α) : session.read f = .ok (f session.index) :=
    if_neg (by simp [hopen])
  simp only [perform, hslot, hsession]
  cases what with
  | count => simp [answer, Session.documentCount, hread, replyOf]
  | fields => simp [answer, Session.fieldNames, hread, replyOf]
  | document id =>
    simp only [answer, Session.document, hread, bind, Except.bind]
    cases session.index.document? id with
    | none => simp [replyOf, throw, throwThe, MonadExceptOf.throw]
    | some document => simp [replyOf, pure, Except.pure]
  | search names text =>
    rw [answer]
    cases Query.parse ⟨.standard, names⟩ text <;> simp [Session.hits, hread, replyOf]
  | location => simp [answer]
  | isClosed => simp [answer]
  | isReleased => cases slot <;> simp [answer]

private theorem perform_read (desk : SessionDesk) (number : Nat) (what : SessionRead) :
    (desk.perform (.read number what)).1 = desk := by
  rw [perform]
  cases desk.slots[number]? with
  | none => rfl
  | some slot => cases slot <;> rfl

private theorem tracks_ofSource (source : IndexSource) : (ofSource source).Tracks 0 [] where
  opened := rfl
  closed := rfl
  size := rfl
  bound := by simp
  shows := by simp [ofSource]

private theorem shows_setIfInBounds {p : Nat → Prop} (hafter : after.Shows (p number))
    (hothers : ∀ other (slot : SessionSlot), other ≠ number → desk.slots[other]? = some slot →
      slot.Shows (p other)) :
    ∀ other (slot : SessionSlot), (desk.slots.setIfInBounds number after)[other]? = some slot →
      slot.Shows (p other) := by
  intro other slot hslot
  rw [Array.getElem?_setIfInBounds] at hslot
  split at hslot
  case isTrue heq =>
    subst heq
    split at hslot
    · obtain rfl := Option.some.inj hslot
      exact hafter
    · cases hslot
  case isFalse hne => exact hothers other slot (Ne.symm hne) hslot

namespace Tracks

private theorem lt_count (h : desk.Tracks count ended) (hslot : desk.slots[number]? = some slot) :
    number < count := by
  obtain ⟨hlt, -⟩ := Array.getElem?_eq_some_iff.mp hslot
  rwa [h.size] at hlt

private theorem isClosed_iff (h : desk.Tracks count ended)
    (hsession : desk.session? number = some session) :
    session.isClosed = true ↔ number ∈ ended := by
  obtain ⟨slot, hslot, hsession⟩ := exists_slot_of_session? hsession
  exact (h.shows number slot hslot).isClosed_iff hsession

theorem push (h : desk.Tracks count ended) (location : String) (index : Index) :
    Tracks { desk with
      counters := desk.counters.countOpened
      slots := desk.slots.push (.bare ⟨location, index, false⟩) } (count + 1) ended where
  opened := congrArg (· + 1) h.opened
  closed := h.closed
  size := by rw [Array.size_push, h.size]
  bound := fun number hnumber => Nat.lt_succ_of_lt (h.bound number hnumber)
  shows := by
    intro number slot hslot
    rw [Array.getElem?_push, h.size] at hslot
    split at hslot
    case isTrue hnew =>
      obtain rfl := Option.some.inj hslot
      refine iff_of_false (by simp) fun hended => ?_
      exact Nat.lt_irrefl count (hnew ▸ h.bound number hended)
    case isFalse => exact h.shows number slot hslot

/-- A slot changes without its session being ended. -/
theorem put (h : desk.Tracks count ended) (number : Nat) (hafter : after.Shows (number ∈ ended)) :
    Tracks { desk with slots := desk.slots.setIfInBounds number after } count ended where
  opened := h.opened
  closed := h.closed
  size := by rw [Array.size_setIfInBounds, h.size]
  bound := h.bound
  shows := shows_setIfInBounds hafter fun other slot _ hslot => h.shows other slot hslot

/-- A session is ended. It counts as closed unless it was closed before. -/
theorem finish (h : desk.Tracks count ended) (hslot : desk.slots[number]? = some slot)
    (hsession : slot.session? = some session) (hafter : after.Shows True) :
    Tracks { desk with
      counters := (desk.counters.close session).1
      slots := desk.slots.setIfInBounds number after } count (ended ++ [number]) where
  opened := by rw [SessionCounts.close_opened, h.opened]
  closed := by
    have hclosed := (h.shows number slot hslot).isClosed_iff hsession
    have hinsert : (ended ++ [number]).toFinset = insert number ended.toFinset := by
      rw [List.toFinset_append, List.toFinset_cons, List.toFinset_nil, Finset.union_comm]
      rfl
    rw [hinsert]
    by_cases hended : number ∈ ended
    · rw [Finset.insert_eq_of_mem (List.mem_toFinset.mpr hended),
        SessionCounts.close_of_isClosed _ _ (hclosed.mpr hended), h.closed]
    · have hopen : session.isClosed = false := by simpa using mt hclosed.mp hended
      rw [Finset.card_insert_of_notMem (mt List.mem_toFinset.mp hended),
        SessionCounts.close_of_open _ _ hopen, h.closed]
  size := by rw [Array.size_setIfInBounds, h.size]
  bound := by
    intro other hother
    rcases List.mem_append.mp hother with hother | hother
    · exact h.bound other hother
    · rw [List.mem_singleton.mp hother]
      exact h.lt_count hslot
  shows := by
    apply shows_setIfInBounds
    · simpa using hafter
    · intro other slot hne hslot
      have hmem : other ∈ ended ++ [number] ↔ other ∈ ended := by simp [hne]
      rw [hmem]
      exact h.shows other slot hslot

private theorem release_eq {guard : SessionGuard} (h : desk.Tracks count ended)
    (hslot : desk.slots[number]? = some (.guarded guard)) :
    guard.release desk.counters = ((desk.counters.close guard.session).1,
      ⟨(desk.counters.close guard.session).2, true⟩) := by
  obtain ⟨hclosed, hreleased⟩ := h.shows number _ hslot
  rw [SessionGuard.release]
  split
  case isTrue h =>
    rw [SessionCounts.close_of_isClosed _ _ (hclosed.mpr (hreleased h)), ← h]
  case isFalse => rfl

end Tracks

private theorem tracks_perform (h : desk.Tracks count ended) (action : SessionAction) :
    (desk.perform action).1.Tracks (count + if action.opens desk.source then 1 else 0)
      (ended ++ (desk.ending? action).toList) := by
  cases action with
  | openAt location =>
    rw [perform, IndexSource.openSession, ending?, Option.toList_none, List.append_nil,
      SessionAction.opens]
    cases desk.source.load location with
    | error fault => exact h
    | ok index => exact h.push location index
  | read number what =>
    rw [ending?, Option.toList_none, List.append_nil, perform_read]
    exact h
  | close number =>
    rw [perform, ending?, session?]
    cases hslot : desk.slots[number]? with
    | none => simpa [SessionAction.opens] using h
    | some slot =>
      cases slot with
      | bare session =>
        exact h.finish hslot rfl (iff_of_true (SessionCounts.close_isClosed _ _) trivial)
      | guarded guard =>
        have hclosed := SessionCounts.close_isClosed desk.counters guard.session
        exact h.finish hslot rfl ⟨iff_of_true hclosed trivial, fun _ => trivial⟩
      | dropped => simpa [SessionAction.opens, SessionSlot.session?] using h
  | guard number =>
    rw [perform, ending?, Option.toList_none, List.append_nil]
    cases hslot : desk.slots[number]? with
    | none => exact h
    | some slot =>
      cases slot with
      | bare session =>
        exact h.put _ ⟨h.shows number _ hslot, fun hreleased => Bool.noConfusion hreleased⟩
      | guarded guard => exact h
      | dropped => exact h
  | release number =>
    rw [perform, ending?, isGuarded]
    cases hslot : desk.slots[number]? with
    | none => simpa [SessionAction.opens] using h
    | some slot =>
      cases slot with
      | bare session => simpa [SessionAction.opens] using h
      | guarded guard =>
        simp only [h.release_eq hslot]
        have hclosed := SessionCounts.close_isClosed desk.counters guard.session
        exact h.finish hslot rfl ⟨iff_of_true hclosed trivial, fun _ => trivial⟩
      | dropped => simpa [SessionAction.opens] using h
  | drop number =>
    rw [perform, ending?, isGuarded]
    have hdropped := (h.put number trivial : Tracks { desk with
      slots := desk.slots.setIfInBounds number .dropped } count ended)
    cases hslot : desk.slots[number]? with
    | none => simpa [SessionAction.opens] using hdropped
    | some slot =>
      cases slot with
      | bare session => simpa [SessionAction.opens] using hdropped
      | guarded guard =>
        simp only [SessionGuard.drop, h.release_eq hslot]
        exact h.finish hslot rfl trivial
      | dropped => simpa [SessionAction.opens] using hdropped

private theorem source_perform (desk : SessionDesk) (action : SessionAction) :
    (desk.perform action).1.source = desk.source := by
  cases action with
  | read number what => rw [perform_read]
  | openAt | close | guard | release | drop =>
    rw [perform]
    split <;> rfl

private theorem tracks_run (h : desk.Tracks count ended) (actions : List SessionAction) :
    (desk.run actions).Tracks (count + actions.countP (·.opens desk.source))
      (ended ++ desk.endings actions) := by
  -- one operation adds to the count and to the history, so the run starts from any of them
  induction actions generalizing desk count ended with
  | nil => simpa [run, endings] using h
  | cons action rest ih =>
    have hrest := ih (tracks_perform h action)
    rw [source_perform, List.append_assoc] at hrest
    have hcount : count + (action :: rest).countP (·.opens desk.source) =
        (count + if action.opens desk.source then 1 else 0) + rest.countP (·.opens desk.source) := by
      rw [List.countP_cons]
      omega
    rw [hcount]
    exact hrest

private theorem source_run (desk : SessionDesk) (actions : List SessionAction) :
    (desk.run actions).source = desk.source := by
  induction actions generalizing desk with
  | nil => rfl
  | cons action rest ih => exact (ih _).trans (source_perform desk action)

/-- After any run of operations the opened sessions are the opens that found an index, and the
closed ones are those of them that were ended, however often. A read fails for a closed session on
those and no others. Reads and failing opens change nothing. -/
theorem counters_run (source : IndexSource) (actions : List SessionAction) :
    let desk := (ofSource source).run actions
    let ended := (ofSource source).endings actions
    desk.counters.opened = actions.countP (·.opens source) ∧
    desk.counters.closed = ended.toFinset.card ∧
    (∀ number ∈ ended, number < desk.counters.opened) ∧
    desk.counters.closed + desk.counters.remaining = desk.counters.opened ∧
    (∀ number session what, desk.session? number = some session →
      (number ∈ ended → what.reaches = true →
        (desk.perform (.read number what)).2 = .fault (.closed session.location) ∧
        (SearchError.index (.closed session.location)).kind = .indexUnavailable) ∧
      (number ∉ ended → ∀ location,
        (desk.perform (.read number what)).2 ≠ .fault (.closed location))) ∧
    (∀ number what, (desk.perform (.read number what)).1 = desk) ∧
    ∀ location fault, source.load location = .error fault →
      desk.perform (.openAt location) = (desk, .fault fault) := by
  intro desk ended
  have h : desk.Tracks (actions.countP (·.opens source)) ended := by
    have hrun := tracks_run (tracks_ofSource source) actions
    rwa [Nat.zero_add, List.nil_append] at hrun
  have hle : ended.toFinset.card ≤ actions.countP (·.opens source) := by
    have hsubset : ended.toFinset ⊆ Finset.range (actions.countP (·.opens source)) := by
      intro number hnumber
      exact Finset.mem_range.mpr (h.bound number (List.mem_toFinset.mp hnumber))
    simpa using Finset.card_le_card hsubset
  refine ⟨h.opened, h.closed, ?_, ?_, ?_, perform_read desk, ?_⟩
  · rw [h.opened]
    exact h.bound
  · rw [SessionCounts.remaining, h.opened, h.closed]
    omega
  · intro number session what hsession
    have hclosed := h.isClosed_iff hsession
    refine ⟨fun hended hreaches => ⟨?_, rfl⟩, fun hended location => ?_⟩
    · exact reply_of_isClosed hsession (hclosed.mpr hended) hreaches
    · exact reply_of_open hsession (by simpa using mt hclosed.mp hended) what location
  · intro location fault hload
    have hsource : desk.source = source := source_run _ _
    rw [perform, IndexSource.openSession, hsource, hload]
    rfl

def bookSource : IndexSource := .ofIndexes [("books", .ofDocuments .standard [])]

def lending : List SessionAction :=
  [.openAt "books", .openAt "films", .openAt "books", .guard 0, .release 0, .close 1, .openAt "books",
    .close 1, .drop 0]

theorem counters_run_lending :
    ((ofSource bookSource).run lending).counters = ⟨3, 2⟩ ∧
    (((ofSource bookSource).run lending).perform (.read 1 .count)).2 = .fault (.closed "books") ∧
    ((ofSource bookSource).run lending).perform (.openAt "films") =
      ((ofSource bookSource).run lending, .fault (.noIndex "films")) := by
  obtain ⟨hopened, hclosed, -, -, hreads, -, hfails⟩ := counters_run bookSource lending
  have hended : (ofSource bookSource).endings lending = [0, 1, 1, 0] := by decide +kernel
  have hcount : lending.countP (·.opens bookSource) = 3 := by decide +kernel
  have hlocation : (((ofSource bookSource).run lending).session? 1).map Session.location =
      some "books" := by decide +kernel
  generalize (ofSource bookSource).run lending = desk at *
  rw [hcount] at hopened
  rw [hended] at hclosed hreads
  obtain ⟨session, hsession, hlocation⟩ := Option.map_eq_some_iff.mp hlocation
  refine ⟨congrArg₂ SessionCounts.mk hopened hclosed, ?_, hfails "films" (.noIndex "films") rfl⟩
  rw [← hlocation]
  exact ((hreads 1 session .count hsession).1 (by decide) rfl).1

end SessionDesk

end PagedSearch
