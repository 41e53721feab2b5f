import Mathlib.Data.List.Forall2
import Mathlib.Data.List.Perm.Subperm

/-! # Related lists -/

namespace PagedSearch

variable {α β γ : Type} {R : α → β → Prop} {l : List α} {m : List β}

theorem forall₂_and_right {p : β → Prop} :
    List.Forall₂ (fun a b => R a b ∧ p b) l m ↔ List.Forall₂ R l m ∧ ∀ b ∈ m, p b := by
  constructor
  · intro h
    induction h with
    | nil => exact ⟨.nil, by simp⟩
    | cons hab _ ih => exact ⟨.cons hab.1 ih.1, List.forall_mem_cons.mpr ⟨hab.2, ih.2⟩⟩
  · rintro ⟨h, hall⟩
    induction h with
    | nil => exact .nil
    | cons hab _ ih =>
      obtain ⟨hb, hrest⟩ := List.forall_mem_cons.mp hall
      exact .cons ⟨hab, hb⟩ (ih hrest)

theorem forall₂_imp_of_mem {S : α → β → Prop} (h : ∀ a ∈ l, ∀ b, R a b → S a b)
    (hrel : List.Forall₂ R l m) : List.Forall₂ S l m := by
  induction hrel with
  | nil => exact .nil
  | cons hab _ ih =>
    obtain ⟨hfirst, hrest⟩ := List.forall_mem_cons.mp h
    exact .cons (hfirst _ hab) (ih hrest)

theorem flatMap_eq_of_forall₂ {f : α → List γ} {g : β → List γ} (hrel : List.Forall₂ R l m)
    (h : ∀ a b, R a b → f a = g b) : l.flatMap f = m.flatMap g := by
  induction hrel with
  | nil => rfl
  | cons hab _ ih => rw [List.flatMap_cons, List.flatMap_cons, h _ _ hab, ih]

theorem forall₂_of_flatMap_append_eq {f : α → List γ} {g : β → List γ} {stop : γ}
    (hcut : ∀ a b rest rest', f a ++ rest = g b ++ rest' → R a b ∧ rest = rest')
    (hleft : ∀ a rest rest', f a ++ rest ≠ stop :: rest')
    (hright : ∀ b rest rest', g b ++ rest ≠ stop :: rest') {rest rest' : List γ}
    (h : l.flatMap f ++ stop :: rest = m.flatMap g ++ stop :: rest') :
    List.Forall₂ R l m ∧ rest = rest' := by
  induction l generalizing m with
  | nil =>
    cases m with
    | nil => exact ⟨.nil, (List.cons_eq_cons.mp h).2⟩
    | cons b m =>
      rw [List.flatMap_cons, List.append_assoc] at h
      exact absurd h.symm (hright b _ _)
  | cons a l ih =>
    cases m with
    | nil =>
      rw [List.flatMap_cons, List.append_assoc] at h
      exact absurd h (hleft a _ _)
    | cons b m =>
      rw [List.flatMap_cons, List.flatMap_cons, List.append_assoc, List.append_assoc] at h
      obtain ⟨hab, h⟩ := hcut a b _ _ h
      obtain ⟨hforall, hrest⟩ := ih h
      exact ⟨.cons hab hforall, hrest⟩

theorem exists_mem_of_forall₂ {b : β} (hrel : List.Forall₂ R l m) (hb : b ∈ m) :
    ∃ a ∈ l, R a b := by
  induction hrel with
  | nil => simp at hb
  | cons hab _ ih =>
    rcases List.mem_cons.mp hb with rfl | hb
    · exact ⟨_, List.mem_cons_self, hab⟩
    · obtain ⟨a, ha, hab⟩ := ih hb
      exact ⟨a, List.mem_cons_of_mem _ ha, hab⟩

theorem exists_getElem?_of_forall₂ {b : β} {place : Nat} (hrel : List.Forall₂ R l m)
    (hb : m[place]? = some b) :
    ∃ a, l[place]? = some a ∧ R a b := by
  induction hrel generalizing place with
  | nil => cases hb
  | cons hab _ ih =>
    cases place with
    | zero =>
      cases hb
      exact ⟨_, rfl, hab⟩
    | succ place => exact ih hb

theorem forall₂_set {a : α} {b : β} {place : Nat} (hrel : List.Forall₂ R l m)
    (hb : m[place]? = some b) (hab : R a b) :
    List.Forall₂ R (l.set place a) m := by
  induction hrel generalizing place with
  | nil => cases hb
  | cons hfirst hrest ih =>
    cases place with
    | zero =>
      cases hb
      exact .cons hab hrest
    | succ place => exact .cons hfirst (ih hb)

private theorem exists_sublist_of_forall₂ {sub : List α} (hsub : sub.Sublist l)
    (hrel : List.Forall₂ R l m) :
    ∃ others, others.Sublist m ∧ List.Forall₂ R sub others := by
  induction hsub generalizing m with
  | slnil => exact ⟨[], List.nil_sublist m, .nil⟩
  | cons a _ ih =>
    obtain ⟨b, rest, -, hrest, rfl⟩ := List.forall₂_cons_left_iff.mp hrel
    obtain ⟨others, hothers, hforall⟩ := ih hrest
    exact ⟨others, hothers.cons b, hforall⟩
  | cons_cons a _ ih =>
    obtain ⟨b, rest, hab, hrest, rfl⟩ := List.forall₂_cons_left_iff.mp hrel
    obtain ⟨others, hothers, hforall⟩ := ih hrest
    exact ⟨b :: others, hothers.cons_cons b, .cons hab hforall⟩

theorem exists_subperm_of_forall₂ {chosen : List α} (hchosen : chosen.Subperm l)
    (hrel : List.Forall₂ R l m) :
    ∃ others, others.Subperm m ∧ List.Forall₂ R chosen others := by
  obtain ⟨sub, hperm, hsub⟩ := hchosen
  obtain ⟨others, hothers, hforall⟩ := exists_sublist_of_forall₂ hsub hrel
  obtain ⟨reordered, hreordered, hsame⟩ := List.perm_comp_forall₂ hperm.symm hforall
  exact ⟨reordered, ⟨others, hsame.symm, hothers⟩, hreordered⟩

theorem mapM_eq_some_of_forall₂ {f : α → Option β}
    (h : List.Forall₂ (fun a b => f a = some b) l m) : l.mapM f = some m := by
  induction h with
  | nil => rfl
  | cons hfirst _ ih => simp [List.mapM_cons, hfirst, ih]

theorem exists_forall₂ (h : ∀ a ∈ l, ∃ b, R a b) : ∃ m, List.Forall₂ R l m := by
  induction l with
  | nil => exact ⟨[], .nil⟩
  | cons a l ih =>
    obtain ⟨⟨b, hb⟩, hrest⟩ := List.forall_mem_cons.mp h
    obtain ⟨m, hm⟩ := ih hrest
    exact ⟨b :: m, .cons hb hm⟩

end PagedSearch
