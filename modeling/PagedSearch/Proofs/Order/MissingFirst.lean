import PagedSearch.Proofs.Number.Shortest
import PagedSearch.Proofs.Number.Sign
import PagedSearch.Proofs.Ranking.Rank

/-!
# Missing values under the numeric comparator

Without a number for missing values these count as negative infinity. They stand before every number
but those at the bottom of the total order, which are negative infinity and the not-a-number
patterns with a minus sign.
-/

namespace PagedSearch

namespace Binary

variable {f : BinaryFormat} {x : Binary f}

/-- Negative infinity and what stands before it in the total order. -/
def AtBottom (x : Binary f) : Prop := x.negative = true ∧ x.isFinite = false
deriving Decidable

private theorem orderKey_infinity_lt_iff (hf : f.IsProper) :
    (infinity true : Binary f).orderKey < x.orderKey ↔ ¬ x.AtBottom := by
  have hinfinity := BinaryFormat.infinity_lt hf
  rw [orderKey, infinity, negative_ofPattern hf hinfinity, pattern_ofPattern hinfinity, orderKey,
    AtBottom, isFinite, decide_eq_false_iff_not]
  cases x.negative <;>
    simp only [if_true, if_false, Bool.false_eq_true, false_and, true_and, not_false_eq_true,
      iff_true] <;>
    omega

private theorem not_atBottom_ofInt {n : Int} (h : n.natAbs ≤ 2 ^ 63) :
    ¬ (ofInt n : Binary64).AtBottom := by
  have hreach : 64 + 1 < BinaryFormat.double.reach := by decide
  have hbelow : n.natAbs < 1 * 2 ^ 64 := by omega
  obtain ⟨m, e, hextent, -⟩ := ofQuotient_below BinaryFormat.isProper_double hreach Nat.one_pos
    hbelow (decide (n < 0))
  rintro ⟨-, hfinite⟩
  exact absurd (isFinite_iff.mpr ⟨m, e, hextent⟩) (Bool.eq_false_iff.mp hfinite)

end Binary

namespace ValueComparator

variable {v : StoredValue} {x : Binary64}

private theorem order_none_some_eq_lt_iff (h : v.number? = some x) :
    (numeric none).order none (some v) = .ok .lt ↔ ¬ x.AtBottom := by
  have horder : (numeric none).order none (some v) =
      .ok ((Binary.infinity true).compareTotal x) := by
    simp [order, numberOf, h, bind, Except.bind, pure, Except.pure]
  rw [horder, Except.ok.injEq, Binary.compareTotal, Int.compare_eq_lt]
  exact Binary.orderKey_infinity_lt_iff BinaryFormat.isProper_double

private theorem order_some_none_eq_gt_iff (h : v.number? = some x) :
    (numeric none).order (some v) none = .ok .gt ↔ ¬ x.AtBottom := by
  have horder : (numeric none).order (some v) none =
      .ok (x.compareTotal (Binary.infinity true)) := by
    simp [order, numberOf, h, bind, Except.bind, pure, Except.pure]
  rw [horder, Except.ok.injEq, Binary.compareTotal, Int.compare_eq_gt]
  exact Binary.orderKey_infinity_lt_iff BinaryFormat.isProper_double

private theorem atBottom_of_notAfter_none (h : NotAfter (numeric none).order (some v) none) :
    ∃ x, v.number? = some x ∧ x.AtBottom := by
  obtain ⟨o, ho, hbefore⟩ := h
  cases hv : v.number? with
  | none => simp [order, numberOf, hv, bind, Except.bind] at ho
  | some x =>
    refine ⟨x, rfl, ?_⟩
    by_contra hx
    rw [(order_some_none_eq_gt_iff hv).mpr hx] at ho
    exact hbefore (Except.ok.inj ho).symm

end ValueComparator

def Criterion.byNumber (field identifier : String) (parameters : List String) : Criterion :=
  ⟨field, .custom ⟨identifier, parameters, .numeric none⟩, false⟩

section Search

open Criterion

variable {field identifier : String} {parameters : List String} {index : Index}

private theorem notAfter_values {a b : Hit}
    (h : NotAfter (SortSpec.chainOrder index [byNumber field identifier parameters]) a b) :
    NotAfter (ValueComparator.numeric none).order
      ((byNumber field identifier parameters).valueOf index a)
      ((byNumber field identifier parameters).valueOf index b) := by
  have hvalues : (byNumber field identifier parameters).orderHits index a b =
      (((ValueComparator.numeric none).order
        ((byNumber field identifier parameters).valueOf index a)
        ((byNumber field identifier parameters).valueOf index b)).mapError
          (.comparator identifier field)).map id := rfl
  obtain ⟨o, ho, hbefore⟩ := h
  simp only [SortSpec.chainOrder, thenCompare, hvalues] at ho
  unfold NotAfter
  generalize (ValueComparator.numeric none).order _ _ = result at ho ⊢
  cases result with
  | error fault => cases ho
  | ok first =>
    refine ⟨first, rfl, ?_⟩
    rintro rfl
    exact hbefore (Except.ok.inj ho).symm

private theorem Session.exists_rank_byNumber {query : Query}
    (hnumbers : ∀ hit v, index.Matches query hit →
      (byNumber field identifier parameters).valueOf index hit = some v → v.number?.isSome)
    (location : String) (count : Nat) :
    ∃ ranking, rank ⟨location, index, false⟩ query [byNumber field identifier parameters] count =
      .ok ranking := by
  have haccepts (hit : Hit) (hmatch : index.Matches query hit) :
      ¬ (byNumber field identifier parameters).Rejects index hit := by
    rintro ⟨v, hv, hnone⟩
    have hsome := hnumbers hit v hmatch hv
    rw [hnone] at hsome
    cases hsome
  have hcomparable : ¬ ∃ a b, index.Matches query a ∧ index.Matches query b ∧ a.id ≠ b.id ∧
      SortSpec.Incomparable index [byNumber field identifier parameters] a b := by
    rintro ⟨a, b, ha, hb, -, (hreject | hreject) | ⟨-, hfalse⟩⟩
    · exact haccepts a ha hreject
    · exact haccepts b hb hreject
    · exact hfalse
  obtain ⟨ranking, -, hfront⟩ := exists_ranking location (pairwise_comparable_iff.mpr hcomparable)
  exact ⟨_, hfront count⟩

/-- Missing values stand before all numbers that are not at the bottom of the total order, so before
all integers. In what a search by this order alone hands out, nothing with another value stands
before a hit without one, and the search fails only if some value is no number. -/
theorem Session.rank_missing_first (field identifier : String) (parameters : List String)
    (location : String) (index : Index) (query : Query) :
    (∀ (v : StoredValue) (x : Binary64), v.number? = some x →
      ((ValueComparator.numeric none).order none (some v) = .ok .lt ↔ ¬ x.AtBottom) ∧
      ((ValueComparator.numeric none).order (some v) none = .ok .gt ↔ ¬ x.AtBottom)) ∧
    (∀ (i : Int64) (x : Binary64), (StoredValue.integer i).number? = some x → ¬ x.AtBottom) ∧
    (∀ count ranking, rank ⟨location, index, false⟩ query
        [byNumber field identifier parameters] count = .ok ranking →
      ranking.hits.Pairwise fun a b =>
        (byNumber field identifier parameters).valueOf index b = none →
        ∀ v, (byNumber field identifier parameters).valueOf index a = some v →
          ∃ x, v.number? = some x ∧ x.AtBottom) ∧
    ((∀ hit v, index.Matches query hit →
        (byNumber field identifier parameters).valueOf index hit = some v → v.number?.isSome) →
      ∀ count, ∃ ranking, rank ⟨location, index, false⟩ query
        [byNumber field identifier parameters] count = .ok ranking) := by
  refine ⟨?_, ?_, ?_, fun hnumbers => exists_rank_byNumber hnumbers location⟩
  · intro v x hv
    exact ⟨ValueComparator.order_none_some_eq_lt_iff hv,
      ValueComparator.order_some_none_eq_gt_iff hv⟩
  · intro i x hx
    obtain rfl := Option.some.inj hx
    have hlow := i.le_toInt
    have hhigh := i.toInt_lt
    exact Binary.not_atBottom_ofInt (by omega)
  · intro count ranking hrank
    rcases rank_cases location index query [byNumber field identifier parameters] count with
      ⟨hplaced, hok⟩ | ⟨-, fault, herror, -⟩
    · rw [hok] at hrank
      obtain rfl := Except.ok.inj hrank
      have hbest := bestFirst_keepBest (SortSpec.chainOrder_lawful index _) .nil hplaced
      refine List.Pairwise.imp ?_ hbest
      intro a b hab hmissing v hv
      have hvalues := notAfter_values hab
      rw [hmissing, hv] at hvalues
      exact ValueComparator.atBottom_of_notAfter_none hvalues
    · rw [herror] at hrank
      cases hrank

end Search

def unpriced : Index :=
  .ofDocuments .standard
    [⟨[⟨"name", .text "red pen"⟩, ⟨"price", .integer (-7)⟩]⟩, ⟨[⟨"name", .text "blue pen"⟩]⟩]

private theorem price_unpriced {hit : Hit} {v : StoredValue}
    (hmatch : unpriced.Matches penQuery hit)
    (hv : (Criterion.byNumber "price" "compare.numeric" []).valueOf unpriced hit = some v) :
    v = .integer (-7) := by
  have hids : (unpriced.hits penQuery).map Hit.id = [0, 1] := by decide +kernel
  have hid : hit.id ∈ [0, 1] := by
    rw [← hids]
    exact List.mem_map_of_mem (Index.mem_hits.mpr hmatch)
  change ((unpriced.document? hit.id).getD ⟨[]⟩).value? "price" = some v at hv
  have hprices : ∀ id ∈ [0, 1], ((unpriced.document? id).getD ⟨[]⟩).value? "price" ∈
      [none, some (.integer (-7))] := by decide +kernel
  have hprice := hprices hit.id hid
  rw [hv] at hprice
  simpa using hprice

theorem Session.rank_missing_first_unpriced :
    (ValueComparator.numeric none).order none (some (.integer (-7))) = .ok .lt ∧
    ∃ ranking, rank ⟨"pens", unpriced, false⟩ penQuery
        [Criterion.byNumber "price" "compare.numeric" []] 2 = .ok ranking ∧
      ranking.hits.Pairwise fun a b =>
        (Criterion.byNumber "price" "compare.numeric" []).valueOf unpriced b = none →
          (Criterion.byNumber "price" "compare.numeric" []).valueOf unpriced a = none := by
  obtain ⟨hvalues, hintegers, hfirst, hranks⟩ :=
    rank_missing_first "price" "compare.numeric" [] "pens" unpriced penQuery
  constructor
  · exact (hvalues (.integer (-7)) _ rfl).1.mpr (hintegers (-7) _ rfl)
  · obtain ⟨ranking, hranking⟩ := hranks (fun hit v hmatch hv => price_unpriced hmatch hv ▸ rfl) 2
    refine ⟨ranking, hranking, ?_⟩
    have hmatches := (rank_eq_ok hranking).1
    refine (hfirst 2 ranking hranking).imp_of_mem fun {a b} ha _ hab hmissing => ?_
    by_contra hpriced
    obtain ⟨v, hv⟩ := Option.ne_none_iff_exists'.mp hpriced
    obtain ⟨x, hx, hbottom⟩ := hab hmissing v hv
    rw [price_unpriced (hmatches a ha) hv] at hx
    exact hintegers (-7) x hx hbottom

/-- A stored negative infinity ties with a missing value. -/
theorem missing_ties_negative_infinity :
    ¬ ∀ (v : StoredValue) (x : Binary64), v.number? = some x →
      (ValueComparator.numeric none).order none (some v) = .ok .lt := by
  intro h
  have hread : (StoredValue.text "-inf").number? = some (.infinity true) := by decide
  have htie : (ValueComparator.numeric none).order none (some (.text "-inf")) = .ok .eq := by decide
  rw [h _ _ hread] at htie
  cases htie

end PagedSearch
