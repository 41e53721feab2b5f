import Mathlib.Data.List.Perm.Basic
import PagedSearch.Ranking.Best
import PagedSearch.Proofs.Number.TotalOrder
import PagedSearch.Proofs.Order.HitOrder
import PagedSearch.Proofs.Ranking.BestFirst

/-!
# What the score collector keeps

The heap holds the best hits in some order. Its top is the last of them, so that giving it up for a
better hit is the same as putting that hit in its place and cutting the list off.
-/

namespace PagedSearch

def byRelevance (a b : Hit) : Except OrderFault Ordering :=
  .ok ((b.score.compareTotal a.score).then (compare a.id b.id))

theorem chainOrder_relevance_eq (index : Index) :
    SortSpec.chainOrder index [SortSpec.relevance] = byRelevance := by
  funext a b
  exact SortSpec.chainOrder_relevance index a b

theorem byRelevance_lawful : LawfulComparison byRelevance := by
  rw [← chainOrder_relevance_eq .empty]
  exact SortSpec.chainOrder_lawful _ _

theorem byRelevance_comparable (a b : Hit) : Comparable byRelevance a b := ⟨_, rfl⟩

private theorem eq_of_byRelevance_eq {a b : Hit} (h : byRelevance a b = .ok .eq) : a = b := by
  obtain ⟨hscore, hid⟩ := Ordering.then_eq_eq.mp (Except.ok.inj h)
  have hs := Binary.eq_of_compareTotal_eq hscore
  have hi := Nat.compare_eq_eq.mp hid
  cases a
  cases b
  simp_all

theorem Hit.ranksBefore_iff {a b : Hit} :
    a.ranksBefore b = true ↔ byRelevance a b = .ok .lt := by
  simp [ranksBefore, byRelevance, Ordering.isLT_iff_eq_lt]

theorem notAfter_of_not_ranksBefore {a b : Hit} (h : ¬ a.ranksBefore b = true) :
    NotAfter byRelevance b a := by
  obtain ⟨o, ho⟩ := byRelevance_comparable a b
  refine ⟨o.swap, byRelevance_lawful.swap ho, ?_⟩
  rintro hgt
  have hlt : o = .lt := by cases o <;> simp_all
  exact h (Hit.ranksBefore_iff.mpr (hlt ▸ ho))

theorem NotAfter.antisymm_relevance {a b : Hit} (hab : NotAfter byRelevance a b)
    (hba : NotAfter byRelevance b a) : a = b := by
  obtain ⟨o, ho, hog⟩ := hab
  obtain ⟨p, hp, hpg⟩ := hba
  have hswap := Except.ok.inj (hp.symm.trans (byRelevance_lawful.swap ho))
  cases o with
  | lt => exact absurd hswap hpg
  | eq => exact eq_of_byRelevance_eq ho
  | gt => exact absurd rfl hog

private theorem notAfter_refl (hit : Hit) : NotAfter byRelevance hit hit :=
  notAfter_of_not_ranksBefore (by simp [Hit.ranksBefore, Binary.compareTotal])

namespace ScoreCollector

theorem worst?_spec {heap : List Hit} (hne : heap ≠ []) :
    ∃ worst ∈ heap, worst? heap = some worst ∧ ∀ x ∈ heap, NotAfter byRelevance x worst := by
  induction heap with
  | nil => exact absurd rfl hne
  | cons hit rest ih =>
    cases rest with
    | nil => exact ⟨hit, by simp, rfl, by simpa using notAfter_refl hit⟩
    | cons next rest =>
      obtain ⟨other, hmem, hworst, hall⟩ := ih (by simp)
      simp only [worst?] at hworst ⊢
      rw [hworst]
      by_cases h : hit.ranksBefore other = true
      · refine ⟨other, List.mem_cons_of_mem _ hmem, by simp [h], ?_⟩
        intro x hx
        rcases List.mem_cons.mp hx with rfl | hx
        · exact ⟨.lt, Hit.ranksBefore_iff.mp h, by decide⟩
        · exact hall x hx
      · refine ⟨hit, by simp, by simp [h], ?_⟩
        intro x hx
        rcases List.mem_cons.mp hx with rfl | hx
        · exact notAfter_refl x
        · exact byRelevance_lawful.notAfter_trans (hall x hx) (notAfter_of_not_ranksBefore h)

private theorem collect_counts (c : ScoreCollector) (new : Hit) :
    (c.collect new).capacity = c.capacity ∧ (c.collect new).total = c.total + 1 := by
  unfold collect
  dsimp only
  split
  · exact ⟨rfl, rfl⟩
  split
  · exact ⟨rfl, rfl⟩
  split
  · split <;> exact ⟨rfl, rfl⟩
  · exact ⟨rfl, rfl⟩

structure Holds (c : ScoreCollector) (best : List Hit) : Prop where
  perm : c.heap.Perm best
  fits : best.length ≤ c.capacity
  bestFirst : BestFirst byRelevance best

namespace Holds

variable {c : ScoreCollector} {best : List Hit}

private theorem top_eq_getLast (h : c.Holds best) (hne : best ≠ []) :
    worst? c.heap = some (best.getLast hne) := by
  have hheap : c.heap ≠ [] := by
    intro hnil
    have hperm := h.perm
    rw [hnil] at hperm
    exact hne hperm.nil_eq.symm
  obtain ⟨worst, hmem, hworst, hall⟩ := worst?_spec hheap
  have hworstLast : NotAfter byRelevance worst (best.getLast hne) :=
    h.bestFirst.notAfter_of_getLast byRelevance_lawful hne (notAfter_refl _) worst
      (h.perm.mem_iff.mp hmem)
  have hlastWorst := hall _ (h.perm.mem_iff.mpr (List.getLast_mem hne))
  rw [hworst, hworstLast.antisymm_relevance hlastWorst]

private theorem collect_heap (h : c.Holds best) (new : Hit) :
    (c.collect new).heap.Perm ((placeInto byRelevance new best).take c.capacity) := by
  have hlen : c.heap.length = best.length := h.perm.length_eq
  have hplaced : (placeInto byRelevance new best).length = best.length + 1 :=
    length_placeInto new best
  have hfits := h.fits
  unfold ScoreCollector.collect
  by_cases hzero : c.capacity = 0
  · have hnil : c.heap = [] := List.eq_nil_of_length_eq_zero (by omega)
    simp [hzero, hnil]
  by_cases hroom : c.heap.length < c.capacity
  · simp only [hzero, hroom, if_true, if_false]
    rw [List.take_of_length_le (by omega)]
    exact (h.perm.cons new).trans (placeInto_perm new best).symm
  have hne : best ≠ [] := List.ne_nil_of_length_pos (by omega)
  simp only [hzero, hroom, if_false, h.top_eq_getLast hne]
  have hsplit := List.dropLast_concat_getLast hne
  by_cases hbefore : new.ranksBefore (best.getLast hne) = true
  · -- the top gives way, which is what falls off the end of the list
    have hgt : byRelevance (best.getLast hne) new = .ok .gt :=
      byRelevance_lawful.swap (Hit.ranksBefore_iff.mp hbefore)
    have hplace : placeInto byRelevance new best =
        placeInto byRelevance new best.dropLast ++ [best.getLast hne] := by
      rw [← placeInto_append_singleton hgt, hsplit]
    have hcut : (placeInto byRelevance new best.dropLast).length = c.capacity := by
      rw [length_placeInto, List.length_dropLast]
      omega
    have herase : (c.heap.erase (best.getLast hne)).Perm best.dropLast := by
      have hheap : c.heap.Perm (best.getLast hne :: best.dropLast) := by
        refine h.perm.trans ?_
        conv_lhs => rw [← hsplit]
        exact List.perm_append_singleton _ _
      simpa using hheap.erase (best.getLast hne)
    simp only [hbefore, if_true]
    rw [hplace, List.take_append_of_le_length (by omega), List.take_of_length_le (by omega)]
    exact (herase.cons new).trans (placeInto_perm new best.dropLast).symm
  · simp only [hbefore]
    rw [placeInto_eq_append (h.bestFirst.notAfter_of_getLast byRelevance_lawful hne
        (notAfter_of_not_ranksBefore hbefore)),
      List.take_append_of_le_length (by omega), List.take_of_length_le (by omega)]
    exact h.perm

theorem collect (h : c.Holds best) (new : Hit) :
    (c.collect new).Holds ((placeInto byRelevance new best).take c.capacity) where
  perm := h.collect_heap new
  fits := by
    rw [(collect_counts c new).1]
    exact List.length_take_le _ _
  bestFirst :=
    (bestFirst_placeInto byRelevance_lawful h.bestFirst fun x _ =>
      byRelevance_comparable x new).take c.capacity

private theorem kept_eq (h : c.Holds best) : c.kept = best := by
  let le (a b : Hit) : Bool := !b.ranksBefore a
  have hle (a b : Hit) : le a b = true ↔ NotAfter byRelevance a b := by
    constructor
    · intro hab
      exact notAfter_of_not_ranksBefore (by simpa [le] using hab)
    · rintro ⟨o, ho, hog⟩
      by_contra hba
      have hlt : b.ranksBefore a = true := by simpa [le] using hba
      have hgt := byRelevance_lawful.swap (Hit.ranksBefore_iff.mp hlt)
      exact hog (Except.ok.inj (ho.symm.trans hgt))
  have hsorted : (c.heap.mergeSort le).Pairwise fun a b => le a b = true := by
    apply List.pairwise_mergeSort
    · intro a b d hab hbd
      rw [hle] at hab hbd ⊢
      exact byRelevance_lawful.notAfter_trans hab hbd
    · intro a b
      rw [Bool.or_eq_true, hle, hle]
      by_cases hba : b.ranksBefore a = true
      · exact .inr ⟨.lt, Hit.ranksBefore_iff.mp hba, by decide⟩
      · exact .inl (notAfter_of_not_ranksBefore hba)
  have hbest : BestFirst byRelevance (c.heap.mergeSort le) :=
    hsorted.imp fun hab => (hle _ _).mp hab
  exact ((List.mergeSort_perm c.heap le).trans h.perm).eq_of_pairwise
    (fun a b _ _ hab hba => hab.antisymm_relevance hba) hbest h.bestFirst

end Holds

/-- A run of offers keeps the best of them. -/
theorem collect_run {c : ScoreCollector} {best : List Hit} (h : c.Holds best)
    (offered : List Hit) :
    (offered.foldl collect c).Holds (keepBest byRelevance c.capacity best offered) ∧
      (offered.foldl collect c).total = c.total + offered.length := by
  induction offered generalizing c best with
  | nil => exact ⟨h, rfl⟩
  | cons new rest ih =>
    obtain ⟨hholds, htotal⟩ := ih (h.collect new)
    rw [(collect_counts c new).1] at hholds
    refine ⟨hholds, ?_⟩
    rw [List.foldl_cons, htotal, (collect_counts c new).2, List.length_cons]
    omega

theorem kept_collect_run (capacity : Nat) (offered : List Hit) :
    (offered.foldl collect (ofCapacity capacity)).kept =
        keepBest byRelevance capacity [] offered ∧
      (offered.foldl collect (ofCapacity capacity)).total = offered.length := by
  have hempty : (ofCapacity capacity).Holds [] := ⟨.refl _, Nat.zero_le _, .nil⟩
  obtain ⟨hholds, htotal⟩ := collect_run hempty offered
  exact ⟨hholds.kept_eq, by simpa [ofCapacity] using htotal⟩

end ScoreCollector

end PagedSearch
