import Mathlib.Data.List.InsertIdx
import PagedSearch.Proofs.Order.Comparison

/-!
# Keeping the best of a sequence

Values are offered one after the other and each is put behind all that do not stand after it; what
exceeds the capacity falls off the end. A smaller capacity keeps the front of what a larger one
keeps, and a capacity that is never reached keeps everything.
-/

namespace PagedSearch

variable {α ε : Type} (cmp : α → α → Except ε Ordering)

def standsAfter (new kept : α) : Bool :=
  match cmp kept new with
  | .ok .gt => true
  | _ => false

def placeInto (new : α) : List α → List α
  | [] => [new]
  | x :: rest => if standsAfter cmp new x then new :: x :: rest else x :: placeInto new rest

def keepBest (capacity : Nat) (kept offered : List α) : List α :=
  offered.foldl (fun kept new => (placeInto cmp new kept).take capacity) kept

/-- Every offered value can be compared with all those that are kept when its turn comes. -/
def Placeable (capacity : Nat) : List α → List α → Prop
  | _, [] => True
  | kept, new :: rest =>
    (∀ x ∈ kept, Comparable cmp x new) ∧
      Placeable capacity ((placeInto cmp new kept).take capacity) rest

def BestFirst (kept : List α) : Prop := kept.Pairwise (NotAfter cmp)

/-- What a search for the place of a value knows of the range it has narrowed down: what stands in
front of the range does not stand after the value, and all that is behind the range does. -/
structure SearchRange (kept : List α) (new : α) (low high : Nat) : Prop where
  front : ∀ i (hi : i < kept.length), i < low → NotAfter cmp kept[i] new
  behind : ∀ i (hi : i < kept.length), high ≤ i → cmp kept[i] new = .ok .gt

variable {cmp}

theorem standsAfter_iff {new kept : α} :
    standsAfter cmp new kept = true ↔ cmp kept new = .ok .gt := by
  unfold standsAfter
  rcases cmp kept new with e | (_ | _ | _) <;> simp

theorem notAfter_of_comparable {new kept : α} (hc : Comparable cmp kept new)
    (hs : ¬ standsAfter cmp new kept = true) : NotAfter cmp kept new := by
  obtain ⟨o, ho⟩ := hc
  refine ⟨o, ho, ?_⟩
  rintro rfl
  exact hs (standsAfter_iff.mpr ho)

private theorem standsAfter_eq_false {new kept : α} (h : NotAfter cmp kept new) :
    standsAfter cmp new kept = false := by
  obtain ⟨o, ho, hog⟩ := h
  rw [Bool.eq_false_iff]
  intro hs
  rw [standsAfter_iff, ho] at hs
  exact hog (Except.ok.inj hs)

theorem placeInto_perm (new : α) (kept : List α) :
    (placeInto cmp new kept).Perm (new :: kept) := by
  induction kept with
  | nil => exact .refl _
  | cons x rest ih =>
      simp only [placeInto]
      split
      · exact .refl _
      · exact (ih.cons x).trans (.swap new x rest)

theorem mem_placeInto {new x : α} {kept : List α} :
    x ∈ placeInto cmp new kept ↔ x = new ∨ x ∈ kept := by
  rw [(placeInto_perm new kept).mem_iff, List.mem_cons]

theorem length_placeInto (new : α) (kept : List α) :
    (placeInto cmp new kept).length = kept.length + 1 :=
  (placeInto_perm new kept).length_eq

theorem placeInto_congr {other : α → α → Except ε Ordering} {new : α} {kept : List α}
    (h : ∀ x ∈ kept, cmp x new = other x new) :
    placeInto cmp new kept = placeInto other new kept := by
  induction kept with
  | nil => rfl
  | cons x rest ih =>
      obtain ⟨hx, hrest⟩ := List.forall_mem_cons.mp h
      rw [placeInto, placeInto, standsAfter, standsAfter, hx, ih hrest]

theorem take_placeInto_take (n : Nat) (new : α) (kept : List α) :
    (placeInto cmp new (kept.take n)).take n = (placeInto cmp new kept).take n := by
  induction kept generalizing n with
  | nil => simp
  | cons x rest ih =>
      cases n with
      | zero => simp
      | succ n =>
          simp only [List.take_succ_cons, placeInto]
          split
          · cases n <;> simp [List.take_take]
          · simp [ih n]

namespace SearchRange

variable {kept : List α} {new : α} {low high middle : Nat}

theorem full (kept : List α) (new : α) : SearchRange cmp kept new 0 kept.length where
  front i _ hlt := absurd hlt (by omega)
  behind i hi hle := absurd hi (by omega)

theorem lower (h : SearchRange cmp kept new low high) (hl : LawfulComparison cmp)
    (hk : BestFirst cmp kept) (hm : middle < kept.length)
    (hgt : cmp kept[middle] new = .ok .gt) : SearchRange cmp kept new low middle where
  front := h.front
  behind i hi hle := by
    rcases Nat.lt_or_eq_of_le hle with hlt | rfl
    · have hnew : cmp new kept[middle] = .ok .lt := hl.swap hgt
      have hi' : NotAfter cmp kept[middle] kept[i] := List.pairwise_iff_getElem.mp hk _ _ hm hi hlt
      exact hl.swap (hl.lt_of_lt_of_notAfter hnew hi')
    · exact hgt

theorem raise (h : SearchRange cmp kept new low high) (hl : LawfulComparison cmp)
    (hk : BestFirst cmp kept) (hm : middle < kept.length)
    (hle : NotAfter cmp kept[middle] new) : SearchRange cmp kept new (middle + 1) high where
  behind := h.behind
  front i hi hlt := by
    rcases Nat.lt_or_eq_of_le (Nat.le_of_lt_succ hlt) with hlt | rfl
    · have hi' : NotAfter cmp kept[i] kept[middle] := List.pairwise_iff_getElem.mp hk _ _ hi hm hlt
      exact hl.notAfter_trans hi' hle
    · exact hle

theorem comparable {place : Nat} (h : SearchRange cmp kept new place place) :
    ∀ x ∈ kept, Comparable cmp x new := by
  intro x hx
  obtain ⟨i, hi, rfl⟩ := List.mem_iff_getElem.mp hx
  by_cases hlt : i < place
  · obtain ⟨o, ho, _⟩ := h.front i hi hlt
    exact ⟨o, ho⟩
  · exact ⟨.gt, h.behind i hi (by omega)⟩

theorem placeInto_eq {place : Nat} (h : SearchRange cmp kept new place place)
    (hplace : place ≤ kept.length) : placeInto cmp new kept = kept.insertIdx place new := by
  induction kept generalizing place with
  | nil =>
      obtain rfl : place = 0 := by simpa using hplace
      rfl
  | cons x rest ih =>
      cases place with
      | zero =>
          have hx : standsAfter cmp new x = true :=
            standsAfter_iff.mpr (h.behind 0 (by simp) (Nat.le_refl 0))
          simp [placeInto, hx]
      | succ place =>
          have hx : standsAfter cmp new x = false :=
            standsAfter_eq_false (h.front 0 (by simp) (by omega))
          have hrest : SearchRange cmp rest new place place :=
            ⟨fun i hi hlt => h.front (i + 1) (by simpa using hi) (by omega),
              fun i hi hle => h.behind (i + 1) (by simpa using hi) (by omega)⟩
          simp [placeInto, hx, ih hrest (by simpa using hplace)]

end SearchRange

theorem placeInto_eq_append {new : α} {kept : List α} (h : ∀ x ∈ kept, NotAfter cmp x new) :
    placeInto cmp new kept = kept ++ [new] := by
  induction kept with
  | nil => rfl
  | cons x rest ih =>
      have hx : standsAfter cmp new x = false := standsAfter_eq_false (h x (by simp))
      simp [placeInto, hx, ih fun y hy => h y (by simp [hy])]

theorem placeInto_append_singleton {new last : α} {kept : List α}
    (h : cmp last new = .ok .gt) :
    placeInto cmp new (kept ++ [last]) = placeInto cmp new kept ++ [last] := by
  induction kept with
  | nil => simp [placeInto, standsAfter_iff.mpr h]
  | cons x rest ih =>
      simp only [List.cons_append, placeInto, ih]
      split <;> rfl

theorem bestFirst_placeInto (hl : LawfulComparison cmp) {new : α} {kept : List α}
    (hk : BestFirst cmp kept) (hc : ∀ x ∈ kept, Comparable cmp x new) :
    BestFirst cmp (placeInto cmp new kept) := by
  induction kept with
  | nil => simp [BestFirst, placeInto]
  | cons x rest ih =>
      obtain ⟨hx, hrest⟩ := List.pairwise_cons.mp hk
      simp only [placeInto]
      split
      · rename_i hs
        have hlt : cmp new x = .ok .lt := hl.swap (standsAfter_iff.mp hs)
        refine List.pairwise_cons.mpr ⟨?_, hk⟩
        intro y hy
        rcases List.mem_cons.mp hy with rfl | hy
        · exact ⟨.lt, hlt, by decide⟩
        · exact ⟨.lt, hl.lt_of_lt_of_notAfter hlt (hx y hy), by decide⟩
      · rename_i hs
        refine List.pairwise_cons.mpr ⟨?_, ih hrest fun y hy => hc y (by simp [hy])⟩
        intro y hy
        rcases mem_placeInto.mp hy with rfl | hy
        · exact notAfter_of_comparable (hc x (by simp)) hs
        · exact hx y hy

theorem BestFirst.notAfter_of_getLast {new : α} {kept : List α} (hk : BestFirst cmp kept)
    (hl : LawfulComparison cmp) (hne : kept ≠ []) (hlast : NotAfter cmp (kept.getLast hne) new) :
    ∀ x ∈ kept, NotAfter cmp x new := by
  have hsplit := List.dropLast_concat_getLast hne
  intro x hx
  rw [BestFirst, ← hsplit] at hk
  rw [← hsplit] at hx
  rcases List.mem_append.mp hx with hx | hx
  · exact hl.notAfter_trans ((List.pairwise_append.mp hk).2.2 x hx _ (by simp)) hlast
  · rw [List.mem_singleton.mp hx]
    exact hlast

theorem BestFirst.take {kept : List α} (hk : BestFirst cmp kept) (n : Nat) :
    BestFirst cmp (kept.take n) :=
  List.Pairwise.sublist (List.take_sublist n kept) hk

theorem keepBest_cons (capacity : Nat) (kept : List α) (new : α) (rest : List α) :
    keepBest cmp capacity kept (new :: rest) =
      keepBest cmp capacity ((placeInto cmp new kept).take capacity) rest := rfl

theorem bestFirst_keepBest (hl : LawfulComparison cmp) {capacity : Nat} {kept offered : List α}
    (hk : BestFirst cmp kept) (hp : Placeable cmp capacity kept offered) :
    BestFirst cmp (keepBest cmp capacity kept offered) := by
  induction offered generalizing kept with
  | nil => exact hk
  | cons new rest ih => exact ih ((bestFirst_placeInto hl hk hp.1).take capacity) hp.2

theorem length_keepBest {capacity : Nat} {kept : List α} (offered : List α)
    (hk : kept.length ≤ capacity) :
    (keepBest cmp capacity kept offered).length = min capacity (kept.length + offered.length) := by
  induction offered generalizing kept with
  | nil => simp [keepBest, Nat.min_eq_right hk]
  | cons new rest ih =>
      rw [keepBest_cons, ih (List.length_take_le _ _)]
      simp only [List.length_take, length_placeInto, List.length_cons]
      omega

section Smaller

variable {n m : Nat}

theorem keepBest_take (hnm : n ≤ m) (kept offered : List α) :
    keepBest cmp n (kept.take n) offered = (keepBest cmp m kept offered).take n := by
  induction offered generalizing kept with
  | nil => rfl
  | cons new rest ih =>
      rw [keepBest_cons, keepBest_cons, ← ih, take_placeInto_take, List.take_take,
        Nat.min_eq_left hnm]

theorem Placeable.take (hnm : n ≤ m) {kept offered : List α}
    (hp : Placeable cmp m kept offered) : Placeable cmp n (kept.take n) offered := by
  induction offered generalizing kept with
  | nil => trivial
  | cons new rest ih =>
      refine ⟨fun x hx => hp.1 x (List.mem_of_mem_take hx), ?_⟩
      have hrest := ih hp.2
      rwa [List.take_take, Nat.min_eq_left hnm, ← take_placeInto_take] at hrest

end Smaller

section Ample

variable {capacity : Nat}

private theorem keepBest_perm {kept offered : List α}
    (hroom : kept.length + offered.length ≤ capacity) :
    (keepBest cmp capacity kept offered).Perm (kept ++ offered) := by
  induction offered generalizing kept with
  | nil => simp [keepBest]
  | cons new rest ih =>
      have hlen : (placeInto cmp new kept).length = kept.length + 1 := length_placeInto new kept
      simp only [List.length_cons] at hroom
      rw [keepBest_cons, List.take_of_length_le (by omega)]
      refine (ih (by omega)).trans ?_
      exact ((placeInto_perm new kept).append_right rest).trans List.perm_middle.symm

theorem placeable_iff {kept offered : List α} (hroom : kept.length + offered.length ≤ capacity) :
    Placeable cmp capacity kept offered ↔
      (∀ x ∈ kept, ∀ y ∈ offered, Comparable cmp x y) ∧ offered.Pairwise (Comparable cmp) := by
  induction offered generalizing kept with
  | nil => simp [Placeable]
  | cons new rest ih =>
      have hlen : (placeInto cmp new kept).length = kept.length + 1 := length_placeInto new kept
      simp only [List.length_cons] at hroom
      simp only [Placeable]
      rw [List.take_of_length_le (by omega), ih (by omega)]
      simp only [mem_placeInto, List.mem_cons, List.pairwise_cons]
      constructor
      · rintro ⟨hnew, hall, hrest⟩
        refine ⟨?_, fun y hy => hall new (.inl rfl) y hy, hrest⟩
        rintro x hx y (rfl | hy)
        · exact hnew x hx
        · exact hall x (.inr hx) y hy
      · rintro ⟨hall, hnew, hrest⟩
        refine ⟨fun x hx => hall x hx new (.inl rfl), ?_, hrest⟩
        rintro x (rfl | hx) y hy
        · exact hnew y hy
        · exact hall x hx y (.inr hy)

end Ample

theorem keepBest_length_perm (offered : List α) :
    (keepBest cmp offered.length [] offered).Perm offered := keepBest_perm (by simp)

theorem placeable_of_pairwise {offered : List α} (hc : offered.Pairwise (Comparable cmp))
    (capacity : Nat) : Placeable cmp capacity [] offered := by
  have hroom : ([] : List α).length + offered.length ≤ max capacity offered.length := by
    rw [List.length_nil]
    omega
  have hample : Placeable cmp (max capacity offered.length) [] offered :=
    (placeable_iff hroom).mpr ⟨by simp, hc⟩
  simpa using hample.take (Nat.le_max_left capacity offered.length)

/-- Any capacity keeps the front of what is kept when there is room for everything. -/
theorem keepBest_eq_take (capacity : Nat) (offered : List α) :
    keepBest cmp capacity [] offered = (keepBest cmp offered.length [] offered).take capacity := by
  let ample := max capacity offered.length
  have hcapacity : keepBest cmp capacity [] offered = (keepBest cmp ample [] offered).take capacity := by
    simpa using keepBest_take (Nat.le_max_left capacity offered.length) [] offered
  have hlength : keepBest cmp offered.length [] offered =
      (keepBest cmp ample [] offered).take offered.length := by
    simpa using keepBest_take (Nat.le_max_right capacity offered.length) [] offered
  have hall : (keepBest cmp ample [] offered).length = offered.length := by
    rw [length_keepBest offered (Nat.zero_le _), List.length_nil]
    omega
  rw [hcapacity, hlength, List.take_of_length_le (Nat.le_of_eq hall)]

end PagedSearch
