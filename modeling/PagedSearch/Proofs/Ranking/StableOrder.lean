import PagedSearch.Proofs.Ranking.BestFirst

/-!
# Stable order

Offered values stand in stable order if none of them stands after a later one and values that tie
stand as they were offered. A comparison that refuses pairs may allow several such orders. They all
begin alike as far as the values in front were compared with everything else.
-/

namespace PagedSearch

variable {α ε : Type} (cmp : α → α → Except ε Ordering)

def ties (a b : α) : Bool :=
  match cmp a b with
  | .ok .eq => true
  | _ => false

/-- The offered values with none before one that it stands after, and with those that tie as they
were offered. -/
structure StablySorted (offered sorted : List α) : Prop where
  perm : sorted.Perm offered
  ordered : sorted.Pairwise fun a b => cmp a b ≠ .ok .gt
  stable : ∀ a, sorted.filter (ties cmp a) = offered.filter (ties cmp a)

def arrange (arranged offered : List α) : List α :=
  offered.foldl (fun arranged new => placeInto cmp new arranged) arranged

/-- The first values of a list, as many as given, stand after none of those behind them. -/
def Leads : Nat → List α → Prop
  | 0, _ => True
  | _ + 1, [] => True
  | n + 1, x :: rest => (∀ y ∈ rest, NotAfter cmp x y) ∧ Leads n rest

variable {cmp}

private theorem ties_iff {a b : α} : ties cmp a b = true ↔ cmp a b = .ok .eq := by
  unfold ties
  rcases cmp a b with e | (_ | _ | _) <;> simp

private theorem arrange_cons (arranged : List α) (new : α) (rest : List α) :
    arrange cmp arranged (new :: rest) = arrange cmp (placeInto cmp new arranged) rest := rfl

private theorem arrange_perm (arranged offered : List α) :
    (arrange cmp arranged offered).Perm (arranged ++ offered) := by
  induction offered generalizing arranged with
  | nil => simp [arrange]
  | cons new rest ih =>
    rw [arrange_cons]
    refine (ih _).trans ?_
    exact ((placeInto_perm new arranged).append_right rest).trans List.perm_middle.symm

private theorem keepBest_take_eq_arrange (n : Nat) (arranged offered : List α) :
    keepBest cmp n (arranged.take n) offered = (arrange cmp arranged offered).take n := by
  induction offered generalizing arranged with
  | nil => rfl
  | cons new rest ih => rw [keepBest_cons, take_placeInto_take, ih, arrange_cons]

theorem keepBest_eq_arrange_take (capacity : Nat) (offered : List α) :
    keepBest cmp capacity [] offered = (arrange cmp [] offered).take capacity := by
  simpa using keepBest_take_eq_arrange capacity [] offered

section Order

variable (hl : LawfulComparison cmp)

include hl

private theorem ordered_placeInto {new : α} {arranged : List α}
    (h : arranged.Pairwise fun a b => cmp a b ≠ .ok .gt) :
    (placeInto cmp new arranged).Pairwise fun a b => cmp a b ≠ .ok .gt := by
  induction arranged with
  | nil => simp [placeInto]
  | cons x rest ih =>
    obtain ⟨hx, hrest⟩ := List.pairwise_cons.mp h
    simp only [placeInto]
    split
    · rename_i hs
      have hnew : cmp new x = .ok .lt := hl.swap (standsAfter_iff.mp hs)
      refine List.pairwise_cons.mpr ⟨fun y hy hgt => ?_, h⟩
      rcases List.mem_cons.mp hy with rfl | hy
      · rw [hnew] at hgt
        cases hgt
      · -- a value before the new one is before what the new one is before
        exact hx y hy (hl.swap (hl.lt_trans (hl.swap hgt) hnew))
    · rename_i hs
      refine List.pairwise_cons.mpr ⟨fun y hy => ?_, ih hrest⟩
      rcases mem_placeInto.mp hy with rfl | hy
      · exact fun hgt => hs (standsAfter_iff.mpr hgt)
      · exact hx y hy

private theorem filter_placeInto {new : α} {arranged : List α}
    (h : arranged.Pairwise fun a b => cmp a b ≠ .ok .gt) (a : α) :
    (placeInto cmp new arranged).filter (ties cmp a) =
      (arranged ++ [new]).filter (ties cmp a) := by
  induction arranged with
  | nil => rfl
  | cons x rest ih =>
    obtain ⟨hx, hrest⟩ := List.pairwise_cons.mp h
    simp only [placeInto]
    split
    · rename_i hs
      have hgt := standsAfter_iff.mp hs
      cases hnew : ties cmp a new with
      | false => simp [List.filter_cons, hnew]
      | true =>
        -- what the new value ties with is not among the values from the first after it on
        have htie : cmp a new = .ok .eq := ties_iff.mp hnew
        have hnone : ∀ y ∈ x :: rest, ¬ ties cmp a y = true := by
          intro y hy hay
          have hynew : cmp y new = .ok .eq := hl.eq_congr (hl.swap (ties_iff.mp hay)) htie
          rcases List.mem_cons.mp hy with rfl | hy
          · rw [hgt] at hynew
            cases hynew
          · exact hx y hy (hl.congr_eq hgt (hl.swap hynew))
        have hempty := List.filter_eq_nil_iff.mpr hnone
        rw [List.filter_append, List.filter_cons, if_pos hnew, hempty]
        simp [hnew]
    · rw [List.cons_append, List.filter_cons, List.filter_cons, ih hrest]

private theorem ordered_arrange {arranged : List α} (offered : List α)
    (h : arranged.Pairwise fun a b => cmp a b ≠ .ok .gt) :
    (arrange cmp arranged offered).Pairwise fun a b => cmp a b ≠ .ok .gt := by
  induction offered generalizing arranged with
  | nil => exact h
  | cons new rest ih => exact ih (ordered_placeInto hl h)

private theorem filter_arrange {arranged : List α} (offered : List α)
    (h : arranged.Pairwise fun a b => cmp a b ≠ .ok .gt) (a : α) :
    (arrange cmp arranged offered).filter (ties cmp a) =
      (arranged ++ offered).filter (ties cmp a) := by
  induction offered generalizing arranged with
  | nil => rw [List.append_nil]; rfl
  | cons new rest ih =>
    rw [arrange_cons, ih (ordered_placeInto hl h), List.filter_append, filter_placeInto hl h,
      ← List.filter_append, List.append_assoc, List.singleton_append]

theorem stablySorted_arrange (offered : List α) :
    StablySorted cmp offered (arrange cmp [] offered) where
  perm := arrange_perm [] offered
  ordered := ordered_arrange hl offered .nil
  stable := filter_arrange hl offered .nil

end Order

namespace Leads

variable {n : Nat}

private theorem nil (n : Nat) : Leads cmp n [] := by
  cases n <;> trivial

private theorem of_succ {l : List α} (h : Leads cmp (n + 1) l) : Leads cmp n l := by
  induction l generalizing n with
  | nil => exact .nil n
  | cons x rest ih =>
    cases n with
    | zero => trivial
    | succ n => exact ⟨h.1, ih h.2⟩

theorem placeInto (hl : LawfulComparison cmp) {new : α} {l : List α} (h : Leads cmp n l)
    (hc : ∀ x ∈ l.take n, Comparable cmp x new) : Leads cmp n (placeInto cmp new l) := by
  induction l generalizing n with
  | nil =>
    cases n with
    | zero => trivial
    | succ n => exact ⟨by simp, .nil n⟩
  | cons x rest ih =>
    cases n with
    | zero => trivial
    | succ n =>
      obtain ⟨hx, hrest⟩ := h
      rw [List.take_succ_cons, List.forall_mem_cons] at hc
      simp only [PagedSearch.placeInto]
      split
      · rename_i hs
        have hnew : cmp new x = .ok .lt := hl.swap (standsAfter_iff.mp hs)
        refine ⟨fun y hy => ?_, of_succ ⟨hx, hrest⟩⟩
        rcases List.mem_cons.mp hy with rfl | hy
        · exact ⟨.lt, hnew, by decide⟩
        · exact ⟨.lt, hl.lt_of_lt_of_notAfter hnew (hx y hy), by decide⟩
      · rename_i hs
        refine ⟨fun y hy => ?_, ih hrest hc.2⟩
        rcases mem_placeInto.mp hy with rfl | hy
        · exact notAfter_of_comparable hc.1 hs
        · exact hx y hy

/-- If each offered value can be compared with all that are kept, those that are kept lead all. -/
theorem arrange (hl : LawfulComparison cmp) {arranged offered : List α} (h : Leads cmp n arranged)
    (hp : Placeable cmp n (arranged.take n) offered) : Leads cmp n (arrange cmp arranged offered) := by
  induction offered generalizing arranged with
  | nil => exact h
  | cons new rest ih =>
    obtain ⟨hc, hp⟩ := hp
    rw [take_placeInto_take] at hp
    exact ih (h.placeInto hl hc) hp

private theorem take_eq (hl : LawfulComparison cmp) {l other : List α} (h : Leads cmp n l)
    (hperm : other.Perm l) (hordered : other.Pairwise fun a b => cmp a b ≠ .ok .gt)
    (hstable : ∀ a, other.filter (ties cmp a) = l.filter (ties cmp a)) :
    other.take n = l.take n := by
  induction n generalizing l other with
  | zero => rfl
  | succ n ih =>
    cases l with
    | nil => rw [hperm.eq_nil]
    | cons x rest =>
      obtain ⟨y, others, rfl⟩ := List.exists_cons_of_ne_nil (fun hnil => by simp [hnil] at hperm :
        other ≠ [])
      obtain ⟨hx, hrest⟩ := h
      obtain ⟨hy, hothers⟩ := List.pairwise_cons.mp hordered
      have hfirst : y = x := by
        by_contra hne
        have hymem : y ∈ rest :=
          (List.mem_cons.mp (hperm.mem_iff.mp List.mem_cons_self)).resolve_left hne
        have hxmem : x ∈ others :=
          (List.mem_cons.mp (hperm.mem_iff.mpr List.mem_cons_self)).resolve_left (Ne.symm hne)
        obtain ⟨o, ho, hog⟩ := hx y hymem
        cases o with
        | lt => exact hy x hxmem (hl.swap ho)
        | gt => exact hog rfl
        | eq =>
          -- both tie with the first, and among those that tie it is the first
          have hself : ties cmp x x = true := ties_iff.mpr (hl.eq_congr ho (hl.swap ho))
          have htied := hstable x
          rw [List.filter_cons, if_pos (ties_iff.mpr ho), List.filter_cons, if_pos hself] at htied
          exact hne (List.cons_eq_cons.mp htied).1
      subst hfirst
      rw [List.take_succ_cons, List.take_succ_cons, ih hrest hperm.cons_inv hothers]
      intro a
      have htied := hstable a
      rw [List.filter_cons, List.filter_cons] at htied
      split at htied
      · exact (List.cons_eq_cons.mp htied).2
      · exact htied

end Leads

/-- Where each offered value can be compared with all that are kept, these are the front of the
offered values in any stable order. -/
theorem StablySorted.keepBest_eq_take (hl : LawfulComparison cmp) {capacity : Nat}
    {offered sorted : List α} (h : StablySorted cmp offered sorted)
    (hp : Placeable cmp capacity [] offered) :
    keepBest cmp capacity [] offered = sorted.take capacity := by
  have harranged := stablySorted_arrange hl offered
  have hleads : Leads cmp capacity (arrange cmp [] offered) :=
    (Leads.nil capacity).arrange hl (by rwa [List.take_nil])
  rw [keepBest_eq_arrange_take]
  exact (hleads.take_eq hl (h.perm.trans harranged.perm.symm) h.ordered
    fun a => (h.stable a).trans (harranged.stable a).symm).symm

end PagedSearch
