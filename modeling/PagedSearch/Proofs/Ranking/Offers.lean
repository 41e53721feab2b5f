import PagedSearch.Proofs.Number.TotalOrder
import PagedSearch.Proofs.Ranking.Rank
import PagedSearch.Proofs.Ranking.StableOrder

/-!
# Hits offered in any order

A collector may be offered any hits, the same one several times and hits of no document. By score
it keeps the front of all of them in their one order. By a specification it keeps the front of any
stable order of them, unless an offer fails. A failing offer is counted and otherwise leaves no
trace, so that what is kept can always be compared.
-/

namespace PagedSearch

/-- Descending score in the total order of the standard, and ascending id among equals. -/
def Hit.PrecedesByScore (a b : Hit) : Prop :=
  b.score.PrecedesTotally a.score ∨ b.score = a.score ∧ a.id < b.id

structure SortedByScore (offered sorted : List Hit) : Prop where
  perm : sorted.Perm offered
  ordered : sorted.Pairwise fun a b => ¬ b.PrecedesByScore a

private theorem byRelevance_eq_lt_iff {a b : Hit} :
    byRelevance a b = .ok .lt ↔ a.PrecedesByScore b := by
  rw [byRelevance, Except.ok.injEq, Ordering.then_eq_lt, Nat.compare_eq_lt, Binary.compareTotal,
    Int.compare_eq_lt, Int.compare_eq_eq, Binary.orderKey_lt_iff, Binary.orderKey_injective.eq_iff,
    Hit.PrecedesByScore]

private theorem notAfter_byRelevance_iff {a b : Hit} :
    NotAfter byRelevance a b ↔ ¬ b.PrecedesByScore a := by
  rw [← byRelevance_eq_lt_iff]
  constructor
  · rintro ⟨o, ho, hog⟩ hlt
    rw [byRelevance_lawful.swap hlt] at ho
    exact hog (Except.ok.inj ho).symm
  · intro hlt
    exact notAfter_of_not_ranksBefore fun h => hlt (Hit.ranksBefore_iff.mp h)

theorem SortedByScore.unique {offered sorted other : List Hit} (h : SortedByScore offered sorted)
    (h' : SortedByScore offered other) : sorted = other := by
  refine (h.perm.trans h'.perm.symm).eq_of_pairwise (fun a b _ _ hab hba => ?_) h.ordered h'.ordered
  exact (notAfter_byRelevance_iff.mpr hab).antisymm_relevance (notAfter_byRelevance_iff.mpr hba)

private theorem sortedByScore_arrange (offered : List Hit) :
    SortedByScore offered (arrange byRelevance [] offered) := by
  have h := stablySorted_arrange byRelevance_lawful offered
  refine ⟨h.perm, h.ordered.imp fun {a b} hgt => notAfter_byRelevance_iff.mp ?_⟩
  exact ⟨_, rfl, fun heq => hgt (congrArg Except.ok heq)⟩

/-- After any calls the kept hits are the front of all offered ones, sorted by score, and the calls
are counted. The order of the calls has no part in it. -/
theorem ScoreCollector.kept_of_offers (offered : List Hit) :
    ∃ sorted, SortedByScore offered sorted ∧ ∀ (capacity : Nat) (calls : List Hit),
      calls.Perm offered →
        (calls.foldl collect (ofCapacity capacity)).kept = sorted.take capacity ∧
        (calls.foldl collect (ofCapacity capacity)).total = calls.length := by
  refine ⟨arrange byRelevance [] offered, sortedByScore_arrange offered, ?_⟩
  intro capacity calls hcalls
  obtain ⟨hkept, htotal⟩ := kept_collect_run capacity calls
  have hsorted : SortedByScore offered (arrange byRelevance [] calls) :=
    ⟨(sortedByScore_arrange calls).perm.trans hcalls, (sortedByScore_arrange calls).ordered⟩
  refine ⟨?_, htotal⟩
  rw [hkept, keepBest_eq_arrange_take, hsorted.unique (sortedByScore_arrange offered)]

def zeroHits : List Hit :=
  [⟨3, .zero true⟩, ⟨5, .zero false⟩, ⟨2, .nan false⟩, ⟨5, .zero false⟩]

theorem ScoreCollector.kept_of_offers_zeros :
    zeroHits.reverse.Perm zeroHits ∧
    ∃ sorted, SortedByScore zeroHits sorted ∧
      (zeroHits.foldl collect (ofCapacity 3)).kept = sorted.take 3 ∧
      (zeroHits.reverse.foldl collect (ofCapacity 3)).kept = sorted.take 3 := by
  obtain ⟨sorted, hsorted, hfront⟩ := ScoreCollector.kept_of_offers zeroHits
  exact ⟨List.reverse_perm _, sorted, hsorted, (hfront 3 zeroHits (.refl _)).1,
    (hfront 3 zeroHits.reverse (List.reverse_perm _)).1⟩

namespace FieldCollector

variable {spec : SortSpec} {session : Session} {c : FieldCollector} {kept : List Hit}

/-- Offers hits in order, also behind one that fails. The faults are handed out beside the
collector. -/
def offerAll (spec : SortSpec) (session : Session) :
    FieldCollector → List Hit → FieldCollector × List OrderFault
  | c, [] => (c, [])
  | c, new :: rest =>
    let (next, fault) := c.collect spec session new
    let (last, faults) := offerAll spec session next rest
    (last, fault.toList ++ faults)

private theorem faults_cons_eq_nil_iff {new : Hit} {rest : List Hit} :
    (offerAll spec session c (new :: rest)).2 = [] ↔
      (c.collect spec session new).2 = none ∧
        (offerAll spec session (c.collect spec session new).1 rest).2 = [] := by
  rw [offerAll]
  dsimp only
  rw [List.append_eq_nil_iff, Option.toList_eq_nil_iff]

theorem collectAll_eq_ok_iff {offered : List Hit} {last : FieldCollector} :
    collectAll spec session c offered = .ok last ↔
      offerAll spec session c offered = (last, []) := by
  induction offered generalizing c with
  | nil => simp [collectAll, offerAll]
  | cons new rest ih =>
    rcases hc : c.collect spec session new with ⟨next, _ | fault⟩
    · simp [collectAll, offerAll, hc, ih, Prod.ext_iff]
    · simp [collectAll, offerAll, hc]

private theorem collect_counts (spec : SortSpec) (session : Session) (c : FieldCollector)
    (new : Hit) : (c.collect spec session new).1.capacity = c.capacity ∧
      (c.collect spec session new).1.total = c.total + 1 := by
  unfold collect
  dsimp only
  split
  · exact ⟨rfl, rfl⟩
  · split <;> exact ⟨rfl, rfl⟩

private theorem offerAll_counts (spec : SortSpec) (session : Session) (c : FieldCollector)
    (offered : List Hit) :
    (offerAll spec session c offered).1.capacity = c.capacity ∧
      (offerAll spec session c offered).1.total = c.total + offered.length := by
  induction offered generalizing c with
  | nil => exact ⟨rfl, rfl⟩
  | cons new rest ih =>
    obtain ⟨hcapacity, htotal⟩ := ih (c.collect spec session new).1
    rw [(collect_counts spec session c new).1] at hcapacity
    rw [(collect_counts spec session c new).2] at htotal
    refine ⟨hcapacity, htotal.trans ?_⟩
    rw [List.length_cons]
    omega

private theorem collect_of_fault {new : Hit} {fault : OrderFault}
    (h : (c.collect spec session new).2 = some fault) :
    (c.collect spec session new).1 = { c with total := c.total + 1 } := by
  unfold collect at h ⊢
  dsimp only at h ⊢
  split at h
  · cases h
  · rename_i hpos
    rw [if_neg hpos]
    split at h
    · cases h
    · rfl

structure Holds (spec : SortSpec) (session : Session) (c : FieldCollector) (kept : List Hit) :
    Prop where
  eq_entries : c.kept = entries spec session.index kept
  keyed : ∀ x ∈ kept, spec.Keyed session x
  fits : kept.length ≤ c.capacity
  bestFirst : BestFirst (SortSpec.chainOrder session.index spec) kept

/-- The entries that are kept fit the capacity. Any two of them can be compared, either way round,
and none stands after a later one. -/
structure InOrder (spec : SortSpec) (c : FieldCollector) : Prop where
  fits : c.kept.size ≤ c.capacity
  comparable : ∀ i j (hi : i < c.kept.size) (hj : j < c.kept.size), i ≠ j →
    Comparable spec.compareKeyed c.kept[i] c.kept[j]
  ordered : c.kept.toList.Pairwise (NotAfter spec.compareKeyed)

namespace Holds

private theorem hits_eq (h : Holds spec session c kept) : c.hits = kept := by
  obtain ⟨capacity, _, total⟩ := c
  obtain rfl := h.eq_entries
  exact hits_entries capacity total kept

private theorem inOrder (h : Holds spec session c kept) : InOrder spec c := by
  obtain ⟨capacity, _, total⟩ := c
  obtain rfl := h.eq_entries
  have hl := SortSpec.chainOrder_lawful session.index spec
  refine ⟨by simpa only [size_entries] using h.fits, ?_, ?_⟩
  · intro i j hi hj hne
    rw [size_entries] at hi hj
    have hlater {i j : Nat} (hi : i < kept.length) (hj : j < kept.length) (hlt : i < j) :
        Comparable (SortSpec.chainOrder session.index spec) kept[i] kept[j] := by
      obtain ⟨o, ho, -⟩ := List.pairwise_iff_getElem.mp h.bestFirst i j hi hj hlt
      exact ⟨o, ho⟩
    simp only [entries, List.getElem_toArray, List.getElem_map, Comparable,
      SortSpec.compareKeyed_entry]
    rcases Nat.lt_or_gt_of_ne hne with hlt | hgt
    · exact hlater hi hj hlt
    · exact hl.comparable_symm (hlater hj hi hgt)
  · simp only [entries, List.pairwise_map]
    exact h.bestFirst.imp fun {a b} hab => by
      simpa only [NotAfter, SortSpec.compareKeyed_entry] using hab

/-- An offer puts the hit in its place, or it fails and what is kept stays as it is. -/
theorem collect_step (h : Holds spec session c kept) (new : Hit) :
    ((∀ x ∈ kept, Comparable (spec.compareHits session) x new) ∧
      (c.collect spec session new).2 = none ∧
      Holds spec session (c.collect spec session new).1
        ((placeInto (spec.compareHits session) new kept).take c.capacity)) ∨
    (∃ fault, (c.collect spec session new).2 = some fault) ∧
      Holds spec session (c.collect spec session new).1 kept := by
  obtain ⟨capacity, _, total⟩ := c
  obtain ⟨rfl, hkeyed, hfits, hbest⟩ := h
  dsimp only at hfits ⊢
  rcases Nat.eq_zero_or_pos capacity with rfl | hpos
  · -- without room for any hit not even its keys are built
    obtain rfl : kept = [] := List.eq_nil_of_length_eq_zero (by omega)
    have hcollect : collect spec session ⟨0, entries spec session.index [], total⟩ new =
        (⟨0, entries spec session.index [], total + 1⟩, none) := rfl
    rw [hcollect, List.take_zero]
    exact .inl ⟨by simp, rfl, rfl, hkeyed, hfits, hbest⟩
  rcases SortSpec.keyedHit_cases spec session new with hnew | ⟨fault, hfault⟩
  · rcases collect_cases total hnew hbest hfits with ⟨hc, hok⟩ | ⟨fault, herror, -, -⟩
    · have hsame (x : Hit) (hx : x ∈ kept) : spec.compareHits session x new =
          SortSpec.chainOrder session.index spec x new :=
        SortSpec.compareHits_of_keyed (hkeyed x hx) hnew
      refine .inl ⟨fun x hx => ?_, by rw [hok], ?_⟩
      · rw [Comparable, hsame x hx]
        exact hc x hx
      · rw [hok, placeInto_congr hsame]
        refine ⟨rfl, fun x hx => ?_, List.length_take_le _ _, ?_⟩
        · rcases mem_placeInto.mp (List.mem_of_mem_take hx) with rfl | hx
          · exact hnew
          · exact hkeyed x hx
        · exact (bestFirst_placeInto (SortSpec.chainOrder_lawful session.index spec) hbest hc).take
            capacity
    · rw [herror]
      exact .inr ⟨⟨fault, rfl⟩, rfl, hkeyed, hfits, hbest⟩
  · have hcollect : collect spec session ⟨capacity, entries spec session.index kept, total⟩ new =
        (⟨capacity, entries spec session.index kept, total + 1⟩, some fault) := by
      simp [collect, Nat.ne_of_gt hpos, hfault, Except.bind]
    rw [hcollect]
    exact .inr ⟨⟨fault, rfl⟩, rfl, hkeyed, hfits, hbest⟩

end Holds

/-- After a run of offers what is kept is in order. Where none has failed it is the best. -/
theorem offerAll_holds (h : Holds spec session c kept) (offered : List Hit) :
    (∃ last, Holds spec session (offerAll spec session c offered).1 last) ∧
      ((offerAll spec session c offered).2 = [] →
        Placeable (spec.compareHits session) c.capacity kept offered ∧
        Holds spec session (offerAll spec session c offered).1
          (keepBest (spec.compareHits session) c.capacity kept offered)) := by
  -- A failing offer leaves the collector holding what it held, so the run goes on from there.
  induction offered generalizing c kept with
  | nil => exact ⟨⟨kept, h⟩, fun _ => ⟨trivial, h⟩⟩
  | cons new rest ih =>
    rcases h.collect_step new with ⟨hc, hnone, hnext⟩ | ⟨⟨fault, hfault⟩, hnext⟩
    · obtain ⟨hsome, hbest⟩ := ih hnext
      refine ⟨hsome, fun hfaults => ?_⟩
      rw [(collect_counts spec session c new).1] at hbest
      obtain ⟨hp, hholds⟩ := hbest (faults_cons_eq_nil_iff.mp hfaults).2
      exact ⟨⟨hc, hp⟩, hholds⟩
    · refine ⟨(ih hnext).1, fun hfaults => ?_⟩
      rw [(faults_cons_eq_nil_iff.mp hfaults).1] at hfault
      cases hfault

/-- After any calls, failing ones among them, the calls are counted and the entries that are kept
are in order, and one more failing call changes nothing but the count. Where no call has failed the
kept hits are the front of all offered ones in any stable order. -/
theorem kept_after_calls {capacity : Nat} {calls : List Hit} {faults : List OrderFault}
    (hrun : offerAll spec session (ofCapacity capacity) calls = (c, faults)) :
    c.capacity = capacity ∧ c.total = calls.length ∧ InOrder spec c ∧
    (∀ hit fault, (c.collect spec session hit).2 = some fault →
      (c.collect spec session hit).1 = { c with total := c.total + 1 }) ∧
    (faults = [] →
      (∃ sorted, StablySorted (spec.compareHits session) calls sorted) ∧
      ∀ sorted, StablySorted (spec.compareHits session) calls sorted →
        c.hits = sorted.take capacity) := by
  have hl := spec.compareHits_lawful session
  have hempty : Holds spec session (ofCapacity capacity) [] :=
    ⟨rfl, by simp, Nat.zero_le _, .nil⟩
  obtain ⟨⟨last, hlast⟩, hbest⟩ := offerAll_holds hempty calls
  obtain ⟨hcapacity, htotal⟩ := offerAll_counts spec session (ofCapacity capacity) calls
  rw [hrun] at hlast hbest hcapacity htotal
  refine ⟨hcapacity, htotal.trans (Nat.zero_add _), hlast.inOrder, ?_, ?_⟩
  · exact fun hit fault hfault => collect_of_fault hfault
  · intro hfaults
    obtain ⟨hp, hholds⟩ := hbest hfaults
    refine ⟨⟨_, stablySorted_arrange hl calls⟩, fun sorted hsorted => ?_⟩
    rw [hholds.hits_eq]
    exact hsorted.keepBest_eq_take hl hp

def penCalls : List Hit := [⟨1, .zero false⟩, ⟨0, .zero false⟩, ⟨9, .zero false⟩, ⟨1, .zero true⟩]

theorem kept_after_calls_pens :
    (∃ c faults, offerAll [byPrice] ⟨"pens", pens, false⟩ (ofCapacity 2) penCalls = (c, faults) ∧
      faults.length = 2 ∧ c.total = 4 ∧ InOrder [byPrice] c ∧
      ∃ fault, (c.collect [byPrice] ⟨"pens", pens, false⟩ ⟨0, .zero false⟩).2 = some fault ∧
        (c.collect [byPrice] ⟨"pens", pens, false⟩ ⟨0, .zero false⟩).1 = { c with total := 5 }) ∧
    ∃ c, offerAll [latestFirst] ⟨"pens", pens, false⟩ (ofCapacity 2) penCalls = (c, []) ∧
      ∃ sorted,
        StablySorted (SortSpec.compareHits [latestFirst] ⟨"pens", pens, false⟩) penCalls sorted ∧
        c.hits = sorted.take 2 := by
  constructor
  · have hcount : (offerAll [byPrice] ⟨"pens", pens, false⟩ (ofCapacity 2) penCalls).2.length = 2 ∧
        ((offerAll [byPrice] ⟨"pens", pens, false⟩ (ofCapacity 2) penCalls).1.collect [byPrice]
          ⟨"pens", pens, false⟩ ⟨0, .zero false⟩).2.isSome = true := by decide +kernel
    rcases hrun : offerAll [byPrice] ⟨"pens", pens, false⟩ (ofCapacity 2) penCalls with ⟨c, faults⟩
    rw [hrun] at hcount
    obtain ⟨fault, hfault⟩ := Option.isSome_iff_exists.mp hcount.2
    obtain ⟨-, htotal, hordered, hfailing, -⟩ := kept_after_calls hrun
    refine ⟨c, faults, rfl, hcount.1, htotal, hordered, fault, hfault, ?_⟩
    rw [hfailing _ fault hfault, htotal]
    rfl
  · have hnone : (offerAll [latestFirst] ⟨"pens", pens, false⟩ (ofCapacity 2) penCalls).2 = [] := by
      decide +kernel
    rcases hrun : offerAll [latestFirst] ⟨"pens", pens, false⟩ (ofCapacity 2) penCalls with
      ⟨c, faults⟩
    obtain rfl : faults = [] := by rwa [hrun] at hnone
    obtain ⟨-, -, -, -, hfront⟩ := kept_after_calls hrun
    obtain ⟨⟨sorted, hsorted⟩, htake⟩ := hfront rfl
    exact ⟨c, rfl, sorted, hsorted, htake sorted hsorted⟩

end FieldCollector

end PagedSearch
