import Mathlib.Order.Basic

/-! # Comparisons that may fail -/

namespace PagedSearch

def Comparable {α ε : Type} (cmp : α → α → Except ε Ordering) (a b : α) : Prop :=
  ∃ o, cmp a b = .ok o

def NotAfter {α ε : Type} (cmp : α → α → Except ε Ordering) (a b : α) : Prop :=
  ∃ o, cmp a b = .ok o ∧ o ≠ .gt

/-- Answers turn around with the operands, values that tie compare alike with every other value,
and the strict order is transitive. -/
structure LawfulComparison {α ε : Type} (cmp : α → α → Except ε Ordering) : Prop where
  swap : ∀ {a b o}, cmp a b = .ok o → cmp b a = .ok o.swap
  eq_congr : ∀ {a b c o}, cmp a b = .ok .eq → cmp b c = .ok o → cmp a c = .ok o
  lt_trans : ∀ {a b c}, cmp a b = .ok .lt → cmp b c = .ok .lt → cmp a c = .ok .lt

def thenCompare {α ε : Type} (first second : α → α → Except ε Ordering) (a b : α) :
    Except ε Ordering :=
  match first a b with
  | .ok .eq => second a b
  | result => result

namespace LawfulComparison

variable {α β ε : Type} {cmp : α → α → Except ε Ordering}

theorem comparable_symm (h : LawfulComparison cmp) {a b : α} (hab : Comparable cmp a b) :
    Comparable cmp b a := by
  obtain ⟨o, ho⟩ := hab
  exact ⟨o.swap, h.swap ho⟩

theorem eq_ok_comm (h : LawfulComparison cmp) {a b : α} {o : Ordering} :
    cmp a b = .ok o ↔ cmp b a = .ok o.swap :=
  ⟨h.swap, fun hba => by simpa using h.swap hba⟩

theorem refused_comm (h : LawfulComparison cmp) {a b : α} :
    (∃ fault, cmp a b = .error fault) ↔ ∃ fault, cmp b a = .error fault := by
  rcases hab : cmp a b with fault | o
  · refine iff_of_true ⟨fault, rfl⟩ ?_
    rcases hba : cmp b a with other | o
    · exact ⟨other, rfl⟩
    · rw [h.swap hba] at hab
      cases hab
  · simp [h.swap hab]

theorem congr_eq (h : LawfulComparison cmp) {a b c : α} {o : Ordering}
    (hab : cmp a b = .ok o) (hbc : cmp b c = .ok .eq) : cmp a c = .ok o := by
  have hca : cmp c a = .ok o.swap := h.eq_congr (h.swap hbc) (h.swap hab)
  simpa using h.swap hca

theorem notAfter_trans (h : LawfulComparison cmp) {a b c : α}
    (hab : NotAfter cmp a b) (hbc : NotAfter cmp b c) : NotAfter cmp a c := by
  obtain ⟨o, ho, hog⟩ := hab
  obtain ⟨p, hp, hpg⟩ := hbc
  cases o with
  | gt => exact absurd rfl hog
  | eq => exact ⟨p, h.eq_congr ho hp, hpg⟩
  | lt =>
    cases p with
    | gt => exact absurd rfl hpg
    | eq => exact ⟨.lt, h.congr_eq ho hp, by decide⟩
    | lt => exact ⟨.lt, h.lt_trans ho hp, by decide⟩

theorem lt_of_lt_of_notAfter (h : LawfulComparison cmp) {a b c : α}
    (hab : cmp a b = .ok .lt) (hbc : NotAfter cmp b c) : cmp a c = .ok .lt := by
  obtain ⟨o, ho, hog⟩ := hbc
  cases o with
  | gt => exact absurd rfl hog
  | eq => exact h.congr_eq hab ho
  | lt => exact h.lt_trans hab ho

/-- Values compared by keys, which some of them do not have. -/
theorem of_key [Ord β] [Std.TransOrd β] (key : α → Option β)
    (hcmp : ∀ a b o, cmp a b = .ok o ↔ ∃ x y, key a = some x ∧ key b = some y ∧ compare x y = o) :
    LawfulComparison cmp where
  swap := by
    intro a b o hab
    obtain ⟨x, y, hx, hy, ho⟩ := (hcmp a b o).mp hab
    exact (hcmp b a o.swap).mpr ⟨y, x, hy, hx, by rw [← ho, Std.OrientedOrd.eq_swap]⟩
  eq_congr := by
    intro a b c o hab hbc
    obtain ⟨x, y, hx, hy, hxy⟩ := (hcmp a b _).mp hab
    obtain ⟨y', z, hy', hz, hyz⟩ := (hcmp b c o).mp hbc
    obtain rfl : y = y' := Option.some.inj (hy.symm.trans hy')
    refine (hcmp a c o).mpr ⟨x, z, hx, hz, ?_⟩
    rw [Std.TransCmp.congr_left hxy, hyz]
  lt_trans := by
    intro a b c hab hbc
    obtain ⟨x, y, hx, hy, hxy⟩ := (hcmp a b _).mp hab
    obtain ⟨y', z, hy', hz, hyz⟩ := (hcmp b c _).mp hbc
    obtain rfl : y = y' := Option.some.inj (hy.symm.trans hy')
    exact (hcmp a c _).mpr ⟨x, z, hx, hz, Std.TransCmp.lt_trans hxy hyz⟩

theorem on_key [Ord β] [Std.TransOrd β] (key : α → β) :
    LawfulComparison fun a b => (.ok (compare (key a) (key b)) : Except ε Ordering) :=
  of_key (fun a => some (key a)) (by simp)

theorem opposite (h : LawfulComparison cmp) : LawfulComparison fun a b => cmp b a where
  swap hab := h.swap hab
  eq_congr hab hbc := h.congr_eq hbc hab
  lt_trans hab hbc := h.lt_trans hbc hab

theorem of_answers {ε' : Type} {other : α → α → Except ε' Ordering} (h : LawfulComparison cmp)
    (hiff : ∀ a b o, other a b = .ok o ↔ cmp a b = .ok o) : LawfulComparison other where
  swap hab := (hiff _ _ _).mpr (h.swap ((hiff _ _ _).mp hab))
  eq_congr hab hbc := (hiff _ _ _).mpr (h.eq_congr ((hiff _ _ _).mp hab) ((hiff _ _ _).mp hbc))
  lt_trans hab hbc := (hiff _ _ _).mpr (h.lt_trans ((hiff _ _ _).mp hab) ((hiff _ _ _).mp hbc))

theorem restrict (h : LawfulComparison cmp) {p : α → Prop} {other : α → α → Except ε Ordering}
    (hiff : ∀ a b o, other a b = .ok o ↔ p a ∧ p b ∧ cmp a b = .ok o) :
    LawfulComparison other where
  swap := by
    intro a b o hab
    obtain ⟨ha, hb, ho⟩ := (hiff a b o).mp hab
    exact (hiff b a o.swap).mpr ⟨hb, ha, h.swap ho⟩
  eq_congr := by
    intro a b c o hab hbc
    obtain ⟨ha, -, hab⟩ := (hiff a b _).mp hab
    obtain ⟨-, hc, hbc⟩ := (hiff b c o).mp hbc
    exact (hiff a c o).mpr ⟨ha, hc, h.eq_congr hab hbc⟩
  lt_trans := by
    intro a b c hab hbc
    obtain ⟨ha, -, hab⟩ := (hiff a b _).mp hab
    obtain ⟨-, hc, hbc⟩ := (hiff b c _).mp hbc
    exact (hiff a c _).mpr ⟨ha, hc, h.lt_trans hab hbc⟩

theorem thenCompare_lawful {first second : α → α → Except ε Ordering}
    (h₁ : LawfulComparison first) (h₂ : LawfulComparison second) :
    LawfulComparison (thenCompare first second) := by
  have hchain : ∀ {a b o}, thenCompare first second a b = .ok o ↔
      (first a b = .ok o ∧ o ≠ .eq) ∨ (first a b = .ok .eq ∧ second a b = .ok o) := by
    intro a b o
    unfold thenCompare
    rcases first a b with e | (_ | _ | _) <;> cases o <;> simp
  constructor
  · intro a b o hab
    rw [hchain] at hab ⊢
    rcases hab with ⟨hab, hne⟩ | ⟨hab, hs⟩
    · exact .inl ⟨h₁.swap hab, by cases o <;> simp_all⟩
    · exact .inr ⟨h₁.swap hab, h₂.swap hs⟩
  · intro a b c o hab hbc
    rw [hchain] at hab hbc ⊢
    obtain ⟨_, hne⟩ | ⟨hab, hs⟩ := hab
    · exact absurd rfl hne
    rcases hbc with ⟨hbc, hne⟩ | ⟨hbc, hs'⟩
    · exact .inl ⟨h₁.eq_congr hab hbc, hne⟩
    · exact .inr ⟨h₁.eq_congr hab hbc, h₂.eq_congr hs hs'⟩
  · intro a b c hab hbc
    rw [hchain] at hab hbc ⊢
    rcases hab with ⟨hab, _⟩ | ⟨hab, hs⟩ <;> rcases hbc with ⟨hbc, _⟩ | ⟨hbc, hs'⟩
    · exact .inl ⟨h₁.lt_trans hab hbc, by decide⟩
    · exact .inl ⟨h₁.congr_eq hab hbc, by decide⟩
    · exact .inl ⟨h₁.eq_congr hab hbc, by decide⟩
    · exact .inr ⟨h₁.eq_congr hab hbc, h₂.lt_trans hs hs'⟩

end LawfulComparison

end PagedSearch
