import Mathlib.Data.List.Forall2

/-! # Outcomes -/

namespace PagedSearch

variable {α β ε ε' : Type}

theorem exists_of_isOk {e : Except ε α} (h : e.isOk = true) : ∃ a, e = .ok a := by
  cases e with
  | error fault => cases h
  | ok a => exact ⟨a, rfl⟩

theorem map_eq_ok_iff {e : Except ε α} {f : α → β} {b : β} :
    e.map f = .ok b ↔ ∃ a, e = .ok a ∧ f a = b := by
  cases e <;> simp [Except.map]

theorem map_eq_error_iff {e : Except ε α} {f : α → β} {fault : ε} :
    e.map f = .error fault ↔ e = .error fault := by
  cases e <;> simp [Except.map]

theorem mapError_eq_ok_iff {e : Except ε α} {f : ε → ε'} {a : α} :
    e.mapError f = .ok a ↔ e = .ok a := by
  cases e <;> simp [Except.mapError]

theorem bind_eq_ok_iff {e : Except ε α} {f : α → Except ε β} {b : β} :
    e >>= f = .ok b ↔ ∃ a, e = .ok a ∧ f a = .ok b := by
  cases e <;> simp [bind, Except.bind]

theorem bind_eq_error_iff {e : Except ε α} {f : α → Except ε β} {fault : ε} :
    e >>= f = .error fault ↔ e = .error fault ∨ ∃ a, e = .ok a ∧ f a = .error fault := by
  cases e <;> simp [bind, Except.bind]

theorem mapError_eq_error_iff {e : Except ε α} {f : ε → ε'} {fault : ε'} :
    e.mapError f = .error fault ↔ ∃ cause, e = .error cause ∧ f cause = fault := by
  cases e <;> simp [Except.mapError]

theorem guard_eq_ok_iff {p : Prop} [Decidable p] {fault : ε} {e : Except ε α} {a : α} :
    (if p then .error fault else e) = .ok a ↔ ¬ p ∧ e = .ok a := by
  by_cases h : p <;> simp [h]

theorem stop_eq_ok_iff {p : Prop} [Decidable p] {fault : ε} {after : α → Except ε β}
    {e : Except ε β} {b : β} :
    (if p then throw fault >>= after else e) = .ok b ↔ ¬ p ∧ e = .ok b :=
  guard_eq_ok_iff

theorem mapM_mapError {f : α → Except ε β} {g : α → Except ε' β} {h : ε' → ε}
    (hfg : ∀ a, f a = (g a).mapError h) (as : List α) :
    as.mapM f = (as.mapM g).mapError h := by
  induction as with
  | nil => rfl
  | cons a rest ih =>
    rw [List.mapM_cons, List.mapM_cons, hfg, ih]
    rcases g a with fault | b
    · rfl
    · rcases rest.mapM g with fault | bs <;> rfl

theorem mapM_eq_ok_iff {f : α → Except ε β} {as : List α} {bs : List β} :
    as.mapM f = .ok bs ↔ List.Forall₂ (fun a b => f a = .ok b) as bs := by
  induction as generalizing bs with
  | nil => cases bs <;> simp [pure, Except.pure]
  | cons a as ih =>
    rw [List.mapM_cons, bind_eq_ok_iff, List.forall₂_cons_left_iff]
    simp only [bind_eq_ok_iff, ih, pure, Except.pure, Except.ok.injEq]
    constructor
    · rintro ⟨b, hb, bs, hbs, rfl⟩
      exact ⟨b, bs, hb, hbs, rfl⟩
    · rintro ⟨b, bs, hb, hbs, rfl⟩
      exact ⟨b, hb, bs, hbs, rfl⟩

theorem mapM_eq_ok {f : α → Except ε β} {g : α → β} {as : List α}
    (h : ∀ a ∈ as, f a = .ok (g a)) : as.mapM f = .ok (as.map g) :=
  mapM_eq_ok_iff.mpr (List.forall₂_map_right_iff.mpr (List.forall₂_same.mpr h))

theorem map_eq_of_mapM {f : α → Except ε β} {as : List α} {bs : List β} (h : as.mapM f = .ok bs) :
    as.map f = bs.map .ok := by
  rw [← List.forall₂_eq_eq_eq, List.forall₂_map_left_iff, List.forall₂_map_right_iff]
  exact mapM_eq_ok_iff.mp h

theorem exists_mapM_eq_ok_iff {f : α → Except ε β} {as : List α} :
    (∃ bs, as.mapM f = .ok bs) ↔ ∀ a ∈ as, ∃ b, f a = .ok b := by
  induction as with
  | nil => simp [pure, Except.pure]
  | cons a as ih =>
    rw [List.forall_mem_cons, ← ih]
    simp only [List.mapM_cons, bind_eq_ok_iff, pure, Except.pure, Except.ok.injEq]
    constructor
    · rintro ⟨_, b, hb, bs, hbs, -⟩
      exact ⟨⟨b, hb⟩, bs, hbs⟩
    · rintro ⟨⟨b, hb⟩, bs, hbs⟩
      exact ⟨b :: bs, b, hb, bs, hbs, rfl⟩

/-- Steps in order fail as the first of them that fails. -/
theorem mapM_eq_error_iff {f : α → Except ε β} {as : List α} {fault : ε} :
    as.mapM f = .error fault ↔ ∃ before a after, as = before ++ a :: after ∧
      (∀ earlier ∈ before, ∃ b, f earlier = .ok b) ∧ f a = .error fault := by
  induction as with
  | nil => simp [pure, Except.pure]
  | cons a as ih =>
    rw [List.mapM_cons, bind_eq_error_iff]
    simp only [bind_eq_error_iff, ih, pure, Except.pure, reduceCtorEq, and_false, exists_false,
      or_false]
    constructor
    · rintro (h | ⟨b, hb, before, c, after, rfl, hbefore, h⟩)
      · exact ⟨[], a, as, rfl, by simp, h⟩
      · exact ⟨a :: before, c, after, rfl, List.forall_mem_cons.mpr ⟨⟨b, hb⟩, hbefore⟩, h⟩
    · rintro ⟨- | ⟨first, before⟩, c, after, hsplit, hbefore, h⟩
      · obtain ⟨rfl, -⟩ := List.cons_eq_cons.mp hsplit
        exact .inl h
      · obtain ⟨rfl, rfl⟩ := List.cons_eq_cons.mp hsplit
        obtain ⟨⟨b, hb⟩, hbefore⟩ := List.forall_mem_cons.mp hbefore
        exact .inr ⟨b, hb, before, c, after, rfl, hbefore, h⟩

theorem mapM_eq_error {f : α → Except ε β} {as : List α} {fault : ε}
    (h : as.mapM f = .error fault) : ∃ a ∈ as, f a = .error fault := by
  obtain ⟨before, a, after, rfl, -, ha⟩ := mapM_eq_error_iff.mp h
  exact ⟨a, by simp, ha⟩

section Guarded

variable {f : α → Except ε β} {p : α → Prop} [DecidablePred p] {fault : α → ε} {g : α → β}
  (hf : ∀ a, f a = if p a then .error (fault a) else .ok (g a))

include hf

private theorem exists_guarded_eq_ok_iff (a : α) : (∃ b, f a = .ok b) ↔ ¬ p a := by
  by_cases h : p a <;> simp [hf, h]

theorem mapM_guarded_eq_ok_iff {as : List α} {bs : List β} :
    as.mapM f = .ok bs ↔ (∀ a ∈ as, ¬ p a) ∧ as.map g = bs := by
  have hall (h : ∀ a ∈ as, ¬ p a) : as.mapM f = .ok (as.map g) :=
    mapM_eq_ok fun a ha => by rw [hf, if_neg (h a ha)]
  constructor
  · intro h
    have hnone : ∀ a ∈ as, ¬ p a := fun a ha =>
      (exists_guarded_eq_ok_iff hf a).mp (exists_mapM_eq_ok_iff.mp ⟨bs, h⟩ a ha)
    exact ⟨hnone, Except.ok.inj ((hall hnone).symm.trans h)⟩
  · rintro ⟨hnone, rfl⟩
    exact hall hnone

theorem mapM_guarded_eq_error_iff {as : List α} {cause : ε} :
    as.mapM f = .error cause ↔ ∃ before a after, as = before ++ a :: after ∧
      (∀ earlier ∈ before, ¬ p earlier) ∧ p a ∧ fault a = cause := by
  have herror (a : α) : f a = .error cause ↔ p a ∧ fault a = cause := by
    by_cases h : p a <;> simp [hf, h]
  simp only [mapM_eq_error_iff, exists_guarded_eq_ok_iff hf, herror]

end Guarded

end PagedSearch
