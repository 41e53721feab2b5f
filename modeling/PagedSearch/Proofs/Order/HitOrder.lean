import PagedSearch.Proofs.Order.NaturalOrder

/-! # The order of hits by a criterion chain -/

namespace PagedSearch

instance : Std.TransOrd TextKey := by
  have hlex : (compare : TextKey → TextKey → Ordering) =
      compareLex (compareOn TextKey.primary) (compareLex (compareOn TextKey.secondary)
        (compareLex (compareOn TextKey.tertiary) (compareOn TextKey.identical))) := rfl
  unfold Std.TransOrd
  rw [hlex]
  infer_instance

namespace Criterion

variable (c : Criterion) (index : Index)

def orderHits (a b : Hit) : Except OrderFault Ordering :=
  c.order (c.keyOf a (index.documentOf a)) (c.keyOf b (index.documentOf b))

/-- One hit stands before another: in the natural order, or against it if the criterion is
reversed. -/
def Before (a b : Hit) : Prop :=
  if c.reverse then c.natural index b a = .ok .lt else c.natural index a b = .ok .lt

def Ties (a b : Hit) : Prop := c.natural index a b = .ok .eq

/-- The hit has a value in the field of a numeric comparator that is no number. -/
def Rejects (hit : Hit) : Prop :=
  match c.kind with
  | .custom ⟨_, _, .numeric _⟩ => ∃ value, c.valueOf index hit = some value ∧ value.number? = none
  | _ => False

/-- A fault refuses two hits: it names a comparator and its field, and a value of one of the hits
that is no number. -/
def Refuses (a b : Hit) (fault : OrderFault) : Prop :=
  ∃ order value, c.kind = .custom order ∧
    fault = .comparator order.identifier c.field ⟨value⟩ ∧ value.number? = none ∧
    (c.valueOf index a = some value ∨ c.valueOf index b = some value)

variable {c index}

private theorem numberOf_eq_error_iff {missing : Option Binary64} {value : Option StoredValue}
    {fault : ValueFault} :
    ValueComparator.numberOf missing value = .error fault ↔
      value = some fault.value ∧ fault.value.number? = none := by
  obtain ⟨culprit⟩ := fault
  cases value with
  | none => simp [ValueComparator.numberOf]
  | some v =>
    cases hv : v.number? with
    | none =>
      simp only [ValueComparator.numberOf, hv, Except.error.injEq, ValueFault.mk.injEq,
        Option.some.injEq]
      exact ⟨fun h => ⟨h, h ▸ hv⟩, fun h => h.1⟩
    | some x =>
      simp only [ValueComparator.numberOf, hv, Option.some.injEq, reduceCtorEq, false_iff]
      rintro ⟨rfl, hnone⟩
      rw [hv] at hnone
      cases hnone

private theorem compare_swap_eq_neg (x y : Int) : compare y x = compare (-x) (-y) := by
  rcases Int.lt_trichotomy x y with h | rfl | h
  · rw [Int.compare_eq_gt.mpr h, Int.compare_eq_gt.mpr (by omega)]
  · simp
  · rw [Int.compare_eq_lt.mpr h, Int.compare_eq_lt.mpr (by omega)]

/-- All criteria but the numeric ones compare keys that every hit has. -/
private theorem natural_keyed_or_numeric (c : Criterion) (index : Index) :
    ((∀ hit, ¬ c.Rejects index hit) ∧
      ∃ (β : Type) (_ : Ord β) (_ : Std.TransOrd β) (key : Hit → β),
        ∀ a b, c.natural index a b = .ok (compare (key a) (key b))) ∨
    ∃ identifier parameters missing, c.kind = .custom ⟨identifier, parameters, .numeric missing⟩ := by
  let value := c.valueOf index
  cases hkind : c.kind with
  | score =>
    refine .inl ⟨by simp [Rejects, hkind], Int, inferInstance, inferInstance,
      fun hit => -hit.score.orderKey, fun a b => ?_⟩
    rw [natural_score hkind, Binary.compareTotal, compare_swap_eq_neg]
  | doc =>
    exact .inl ⟨by simp [Rejects, hkind], Nat, inferInstance, inferInstance, Hit.id,
      fun a b => natural_doc hkind⟩
  | typed type =>
    refine .inl ⟨by simp [Rejects, hkind], ?_⟩
    cases type with
    | int | short | long | byte =>
      exact ⟨Int, inferInstance, inferInstance, fun hit => ValueType.integerOf _ (value hit),
        fun a b => natural_word hkind rfl (ValueType.integerOf_eq_iff.mp rfl)
          (ValueType.integerOf_eq_iff.mp rfl)⟩
    | float =>
      exact ⟨Int, inferInstance, inferInstance,
        fun hit => ((ValueType.realOf .single (value hit)).convert : Binary64).orderKey,
        fun a b => natural_float hkind rfl (ValueType.realOf_eq_iff.mp rfl)
          (ValueType.realOf_eq_iff.mp rfl)⟩
    | double =>
      exact ⟨Int, inferInstance, inferInstance,
        fun hit => (ValueType.realOf .double (value hit)).orderKey,
        fun a b => natural_double hkind rfl (ValueType.realOf_eq_iff.mp rfl)
          (ValueType.realOf_eq_iff.mp rfl)⟩
    | string | stringValue =>
      refine ⟨Option String, inferInstance, inferInstance,
        fun hit => (value hit).map StoredValue.display, fun a b => ?_⟩
      rw [natural_text hkind (by simp), compare_eq_missingFirst]
  | collated locale =>
    refine .inl ⟨by simp [Rejects, hkind], Option TextKey, inferInstance, inferInstance,
      fun hit => (value hit).map fun v => (Collation.ofLocale locale).key v.display,
      fun a b => ?_⟩
    rw [natural_collated hkind, compare_eq_missingFirst]
  | custom order =>
    obtain ⟨identifier, parameters, comparator⟩ := order
    cases comparator with
    | length =>
      exact .inl ⟨by simp [Rejects, hkind], Nat, inferInstance, inferInstance,
        fun hit => (value hit).elim 0 (·.display.length), fun a b => natural_length hkind⟩
    | articleSkipping articles =>
      refine .inl ⟨by simp [Rejects, hkind], Option String, inferInstance, inferInstance,
        fun hit => (value hit).map (ValueComparator.titleText articles), fun a b => ?_⟩
      rw [natural_articleSkipping hkind, compare_eq_missingFirst]
    | numeric missing => exact .inr ⟨identifier, parameters, missing, rfl⟩

private theorem natural_lawful (c : Criterion) (index : Index) :
    LawfulComparison (c.natural index) := by
  obtain ⟨hnone, β, _, _, key, hkey⟩ | ⟨identifier, parameters, missing, hkind⟩ :=
    natural_keyed_or_numeric c index
  · exact (LawfulComparison.on_key (ε := OrderFault) key).of_answers fun a b o => by rw [hkey]
  · apply LawfulComparison.of_key fun hit =>
      (ValueComparator.numberOf missing (c.valueOf index hit)).toOption.map Binary.orderKey
    intro a b o
    rw [natural_numeric hkind]
    rcases ValueComparator.numberOf missing (c.valueOf index a) with f | x <;>
      rcases ValueComparator.numberOf missing (c.valueOf index b) with g | y <;>
        simp [Except.toOption, Binary.compareTotal]

private theorem natural_eq_error_iff {a b : Hit} :
    (∃ fault, c.natural index a b = .error fault) ↔ c.Rejects index a ∨ c.Rejects index b := by
  obtain ⟨hnone, β, _, _, key, hkey⟩ | ⟨identifier, parameters, missing, hkind⟩ :=
    natural_keyed_or_numeric c index
  · simp [hkey, hnone]
  · have hrejects (hit : Hit) : c.Rejects index hit ↔
        ∃ fault, ValueComparator.numberOf missing (c.valueOf index hit) = .error fault := by
      simp only [Rejects, hkind, numberOf_eq_error_iff]
      exact ⟨fun ⟨value, h⟩ => ⟨⟨value⟩, h⟩, fun ⟨fault, h⟩ => ⟨fault.value, h⟩⟩
    rw [hrejects, hrejects, natural_numeric hkind]
    rcases ValueComparator.numberOf missing (c.valueOf index a) with f | x <;>
      rcases ValueComparator.numberOf missing (c.valueOf index b) with g | y <;> simp

theorem refuses_of_natural_error {a b : Hit} {fault : OrderFault}
    (h : c.natural index a b = .error fault) : c.Refuses index a b fault := by
  obtain ⟨hnone, β, _, _, key, hkey⟩ | ⟨identifier, parameters, missing, hkind⟩ :=
    natural_keyed_or_numeric c index
  · rw [hkey] at h
    cases h
  · rw [natural_numeric hkind] at h
    split at h
    · cases h
    · rename_i first hfirst
      obtain ⟨hvalue, hnumber⟩ := numberOf_eq_error_iff.mp hfirst
      exact ⟨_, first.value, hkind, (Except.error.inj h).symm, hnumber, .inl hvalue⟩
    · rename_i second _ hsecond
      obtain ⟨hvalue, hnumber⟩ := numberOf_eq_error_iff.mp hsecond
      exact ⟨_, second.value, hkind, (Except.error.inj h).symm, hnumber, .inr hvalue⟩

private theorem kind_of_natural_error {a b : Hit} {fault : OrderFault}
    (h : c.natural index a b = .error fault) : fault.kind = .sortExecution := by
  obtain ⟨_, _, -, rfl, -⟩ := refuses_of_natural_error h
  rfl

private theorem orderHits_eq (c : Criterion) (index : Index) (a b : Hit) :
    c.orderHits index a b =
      (c.natural index a b).map fun o => if c.reverse then o.swap else o := rfl

private theorem orderHits_eq_lt_iff {a b : Hit} :
    c.orderHits index a b = .ok .lt ↔ c.Before index a b := by
  rw [orderHits_eq, Before]
  cases c.reverse with
  | false => cases c.natural index a b <;> simp [Except.map]
  | true =>
    constructor
    · intro h
      apply (natural_lawful c index).swap (o := .gt)
      rcases hab : c.natural index a b with e | (_ | _ | _) <;> simp_all [Except.map]
    · intro h
      have hab : c.natural index a b = .ok .gt := (natural_lawful c index).swap h
      simp [hab, Except.map]

private theorem orderHits_eq_eq_iff {a b : Hit} :
    c.orderHits index a b = .ok .eq ↔ c.Ties index a b := by
  rw [orderHits_eq, Ties]
  cases c.reverse <;> rcases c.natural index a b with e | (_ | _ | _) <;> simp [Except.map]

private theorem orderHits_eq_error_iff {a b : Hit} {fault : OrderFault} :
    c.orderHits index a b = .error fault ↔ c.natural index a b = .error fault := by
  rw [orderHits_eq]
  cases c.natural index a b <;> simp [Except.map]

private theorem orderHits_lawful (c : Criterion) (index : Index) :
    LawfulComparison (c.orderHits index) := by
  have hl := natural_lawful c index
  cases hr : c.reverse with
  | false =>
    apply hl.of_answers
    intro a b o
    rw [orderHits_eq, hr]
    cases c.natural index a b <;> simp [Except.map]
  | true =>
    apply hl.opposite.of_answers
    intro a b o
    have hswap : c.natural index b a = .ok o ↔ c.natural index a b = .ok o.swap :=
      ⟨fun h => hl.swap h, fun h => by simpa using hl.swap h⟩
    rw [orderHits_eq, hr, hswap]
    rcases c.natural index a b with e | (_ | _ | _) <;> cases o <;> simp [Except.map]

end Criterion

namespace SortSpec

def chainOrder (index : Index) : SortSpec → Hit → Hit → Except OrderFault Ordering
  | [] => fun a b => .ok (compare a.id b.id)
  | c :: rest => thenCompare (c.orderHits index) (chainOrder index rest)

/-- One hit stands before another by the first criterion that tells them apart, or by a lower id
if none does. -/
def ChainBefore (index : Index) : SortSpec → Hit → Hit → Prop
  | [], a, b => a.id < b.id
  | c :: rest, a, b => c.Before index a b ∨ c.Ties index a b ∧ ChainBefore index rest a b

/-- Two hits cannot be compared: all criteria up to some numeric one tie, and that one rejects the
value of one of the hits. -/
def Incomparable (index : Index) : SortSpec → Hit → Hit → Prop
  | [], _, _ => False
  | c :: rest, a, b =>
    (c.Rejects index a ∨ c.Rejects index b) ∨ c.Ties index a b ∧ Incomparable index rest a b

def MoreRelevant (a b : Hit) : Prop :=
  b.score.orderKey < a.score.orderKey ∨ b.score.orderKey = a.score.orderKey ∧ a.id < b.id

/-- One hit ranks before another. The empty specification ranks by relevance. -/
def RanksBefore (index : Index) : SortSpec → Hit → Hit → Prop
  | [], a, b => MoreRelevant a b
  | c :: rest, a, b => ChainBefore index (c :: rest) a b

def compareHits (spec : SortSpec) (session : Session) (a b : Hit) :
    Except OrderFault Ordering := do
  spec.compareKeyed (← spec.keyedHit session a) (← spec.keyedHit session b)

def entry (spec : SortSpec) (index : Index) (hit : Hit) : KeyedHit :=
  ⟨hit, spec.map fun c => c.keyOf hit (index.documentOf hit)⟩

def Keyed (spec : SortSpec) (session : Session) (hit : Hit) : Prop :=
  spec.keyedHit session hit = .ok (spec.entry session.index hit)

theorem chainOrder_lawful (index : Index) (spec : SortSpec) :
    LawfulComparison (chainOrder index spec) := by
  induction spec with
  | nil => exact LawfulComparison.on_key Hit.id
  | cons c rest ih => exact (c.orderHits_lawful index).thenCompare_lawful ih

theorem compareKeyed_entry (spec : SortSpec) (index : Index) (a b : Hit) :
    spec.compareKeyed (spec.entry index a) (spec.entry index b) = chainOrder index spec a b := by
  induction spec with
  | nil => rfl
  | cons c rest ih =>
    simp only [compareKeyed, entry, List.map_cons, compareKeys] at ih ⊢
    have hkeys : c.order (c.keyOf a (index.documentOf a)) (c.keyOf b (index.documentOf b)) =
        c.orderHits index a b := rfl
    simp only [chainOrder, thenCompare, hkeys]
    rcases c.orderHits index a b with e | (_ | _ | _)
    · rfl
    · rfl
    · exact ih
    · rfl

private theorem chainOrder_eq_lt_iff {index : Index} {spec : SortSpec} {a b : Hit} :
    chainOrder index spec a b = .ok .lt ↔ ChainBefore index spec a b := by
  induction spec with
  | nil => simp [chainOrder, ChainBefore, Nat.compare_eq_lt]
  | cons c rest ih =>
    rw [ChainBefore, ← Criterion.orderHits_eq_lt_iff, ← Criterion.orderHits_eq_eq_iff, ← ih]
    simp only [chainOrder, thenCompare]
    rcases c.orderHits index a b with e | (_ | _ | _) <;> simp

theorem id_eq_of_chainOrder_eq {index : Index} {spec : SortSpec} {a b : Hit}
    (h : chainOrder index spec a b = .ok .eq) : a.id = b.id := by
  induction spec with
  | nil => simpa [chainOrder, Nat.compare_eq_eq] using h
  | cons c rest ih =>
    apply ih
    simp only [chainOrder, thenCompare] at h
    split at h
    · exact h
    · rename_i hne
      exact absurd h hne

private theorem chainOrder_eq_error_iff {index : Index} {spec : SortSpec} {a b : Hit} :
    (∃ fault, chainOrder index spec a b = .error fault) ↔ Incomparable index spec a b := by
  induction spec with
  | nil => simp [chainOrder, Incomparable]
  | cons c rest ih =>
    rw [Incomparable, ← Criterion.natural_eq_error_iff, ← Criterion.orderHits_eq_eq_iff, ← ih]
    simp only [chainOrder, thenCompare, ← Criterion.orderHits_eq_error_iff]
    rcases c.orderHits index a b with e | (_ | _ | _) <;> simp

theorem exists_criterion_of_chainOrder_error {index : Index} {spec : SortSpec} {a b : Hit}
    {fault : OrderFault} (h : chainOrder index spec a b = .error fault) :
    ∃ c ∈ spec, c.natural index a b = .error fault := by
  induction spec with
  | nil => cases h
  | cons c rest ih =>
    simp only [chainOrder, thenCompare] at h
    split at h
    · obtain ⟨d, hd, hfault⟩ := ih h
      exact ⟨d, List.mem_cons_of_mem c hd, hfault⟩
    · exact ⟨c, List.mem_cons_self, Criterion.orderHits_eq_error_iff.mp h⟩

theorem kind_of_chainOrder_error {index : Index} {spec : SortSpec} {a b : Hit}
    {fault : OrderFault} (h : chainOrder index spec a b = .error fault) :
    fault.kind = .sortExecution := by
  obtain ⟨c, -, hfault⟩ := exists_criterion_of_chainOrder_error h
  exact Criterion.kind_of_natural_error hfault

private theorem keyOf_of_not_needsField {c : Criterion} (h : c.kind.needsField = false)
    (hit : Hit) (d e : Document) : c.keyOf hit d = c.keyOf hit e := by
  unfold Criterion.keyOf
  cases hk : c.kind <;> simp_all [CriterionKind.needsField]

private theorem keys_of_not_needsFields {spec : SortSpec} (h : spec.needsFields = false)
    (hit : Hit) (d e : Document) : (spec.map fun c => c.keyOf hit d) = spec.map fun c => c.keyOf hit e := by
  apply List.map_congr_left
  intro c hc
  refine keyOf_of_not_needsField ?_ hit d e
  simpa using List.any_eq_false.mp h c hc

private theorem document?_of_document {session : Session} {id : Nat} {d : Document}
    (h : session.document id = .ok d) : session.index.document? id = some d := by
  cases hclosed : session.isClosed with
  | true => simp [Session.document, Session.read, hclosed, bind, Except.bind] at h
  | false =>
    cases hd : session.index.document? id <;>
      simp_all [Session.document, Session.read, bind, Except.bind, pure, Except.pure]

theorem keyedHit_cases (spec : SortSpec) (session : Session) (hit : Hit) :
    spec.Keyed session hit ∨ ∃ fault, spec.keyedHit session hit = .error fault := by
  unfold Keyed
  cases hf : spec.needsFields with
  | false =>
    have hkeys := keys_of_not_needsFields hf hit ⟨[]⟩ (session.index.documentOf hit)
    exact .inl (by simp [keyedHit, entry, hf, hkeys, bind, Except.bind, pure, Except.pure])
  | true =>
    rcases hd : session.document hit.id with fault | d
    · exact .inr ⟨.index fault, by simp [keyedHit, hf, hd, bind, Except.bind, Except.mapError]⟩
    · have hdoc : session.index.documentOf hit = d := by
        simp [Index.documentOf, document?_of_document hd]
      exact .inl (by simp [keyedHit, entry, hf, hd, hdoc, bind, Except.bind, Except.mapError,
        pure, Except.pure])

theorem keyedHit_eq_entry (spec : SortSpec) (location : String) {index : Index} {hit : Hit}
    {d : Document} (hd : index.document? hit.id = some d) :
    spec.Keyed ⟨location, index, false⟩ hit := by
  refine (keyedHit_cases spec ⟨location, index, false⟩ hit).resolve_right ?_
  rintro ⟨fault, h⟩
  cases hf : spec.needsFields <;>
    simp [keyedHit, hf, Session.document, Session.read, hd, bind, Except.bind, pure, Except.pure,
      Except.mapError] at h

theorem compareHits_of_keyed {spec : SortSpec} {session : Session} {a b : Hit}
    (ha : spec.Keyed session a) (hb : spec.Keyed session b) :
    spec.compareHits session a b = chainOrder session.index spec a b := by
  rw [compareHits, ha, hb]
  exact compareKeyed_entry spec session.index a b

theorem compareHits_eq (spec : SortSpec) (location : String) {index : Index} {a b : Hit}
    {d e : Document} (ha : index.document? a.id = some d) (hb : index.document? b.id = some e) :
    spec.compareHits ⟨location, index, false⟩ a b = chainOrder index spec a b :=
  compareHits_of_keyed (keyedHit_eq_entry spec location ha) (keyedHit_eq_entry spec location hb)

private theorem compareHits_eq_ok_iff {spec : SortSpec} {session : Session} {a b : Hit}
    {o : Ordering} :
    spec.compareHits session a b = .ok o ↔
      spec.Keyed session a ∧ spec.Keyed session b ∧ chainOrder session.index spec a b = .ok o := by
  rcases keyedHit_cases spec session a with ha | ⟨fault, ha⟩
  · rcases keyedHit_cases spec session b with hb | ⟨fault, hb⟩
    · rw [compareHits_of_keyed ha hb]
      exact ⟨fun h => ⟨ha, hb, h⟩, fun h => h.2.2⟩
    · rw [Keyed] at ha
      simp [compareHits, Keyed, ha, hb, bind, Except.bind]
  · simp [compareHits, Keyed, ha, bind, Except.bind]

theorem compareHits_lawful (spec : SortSpec) (session : Session) :
    LawfulComparison (spec.compareHits session) :=
  (chainOrder_lawful session.index spec).restrict fun _ _ _ => compareHits_eq_ok_iff

def relevance : Criterion := ⟨"", .score, false⟩

def chain (spec : SortSpec) : SortSpec := if spec.isEmpty then [relevance] else spec

theorem chainOrder_relevance (index : Index) (a b : Hit) :
    chainOrder index [relevance] a b =
      .ok ((b.score.compareTotal a.score).then (compare a.id b.id)) := by
  have hscore : relevance.orderHits index a b = .ok (b.score.compareTotal a.score) := rfl
  simp only [chainOrder, thenCompare, hscore]
  cases b.score.compareTotal a.score <;> rfl

theorem ranksBefore_iff {index : Index} {spec : SortSpec} {a b : Hit} :
    RanksBefore index spec a b ↔ chainOrder index spec.chain a b = .ok .lt := by
  cases spec with
  | nil =>
    change MoreRelevant a b ↔ chainOrder index [relevance] a b = .ok .lt
    rw [chainOrder_relevance, MoreRelevant, Binary.compareTotal]
    simp [Ordering.then_eq_lt, Int.compare_eq_lt, Nat.compare_eq_lt]
  | cons c rest => exact chainOrder_eq_lt_iff.symm

private theorem incomparable_chain {index : Index} {spec : SortSpec} {a b : Hit} :
    Incomparable index spec.chain a b ↔ Incomparable index spec a b := by
  cases spec with
  | nil => simp [chain, relevance, Incomparable, Criterion.Rejects]
  | cons c rest => rfl

theorem RanksBefore.asymm {index : Index} {spec : SortSpec} {a b : Hit}
    (hab : RanksBefore index spec a b) :
    ¬ RanksBefore index spec b a := by
  intro hba
  have hgt := (chainOrder_lawful index spec.chain).swap (ranksBefore_iff.mp hab)
  rw [ranksBefore_iff.mp hba] at hgt
  cases hgt

theorem comparable_iff {index : Index} {spec : SortSpec} {a b : Hit} :
    Comparable (chainOrder index spec) a b ↔ ¬ Incomparable index spec a b := by
  rw [← chainOrder_eq_error_iff]
  constructor
  · rintro ⟨o, ho⟩ ⟨fault, hfault⟩
    rw [ho] at hfault
    cases hfault
  · intro hno
    rcases hab : chainOrder index spec a b with fault | o
    · exact absurd ⟨fault, hab⟩ hno
    · exact ⟨o, hab⟩

theorem comparable_chain {index : Index} {spec : SortSpec} {a b : Hit} :
    Comparable (chainOrder index spec.chain) a b ↔ Comparable (chainOrder index spec) a b := by
  rw [comparable_iff, comparable_iff, incomparable_chain]

end SortSpec

end PagedSearch
