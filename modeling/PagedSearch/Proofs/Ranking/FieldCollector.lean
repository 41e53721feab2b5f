import PagedSearch.Ranking.Best
import PagedSearch.Proofs.Order.HitOrder
import PagedSearch.Proofs.Ranking.BestFirst

/-!
# What the field collector keeps

The search for the place of a hit either finds the boundary between the hits that stand after it
and the others, or meets a hit that it cannot be compared with. So a collector that has not failed
keeps the best of what was offered, and it fails on the first hit that cannot be compared with all
that are kept.
-/

namespace PagedSearch.FieldCollector

variable {spec : SortSpec} {index : Index}

def entries (spec : SortSpec) (index : Index) (hits : List Hit) : Array KeyedHit :=
  (hits.map (spec.entry index)).toArray

theorem size_entries (hits : List Hit) : (entries spec index hits).size = hits.length := by
  simp [entries]

theorem hits_entries (capacity total : Nat) (kept : List Hit) :
    hits ⟨capacity, entries spec index kept, total⟩ = kept := by
  simp [hits, entries, SortSpec.entry, Function.comp_def]

private theorem getElem?_entries (hits : List Hit) (i : Nat) (hi : i < hits.length) :
    (entries spec index hits)[i]? = some (spec.entry index hits[i]) := by
  simp [entries, hi]

/-- The search ends at the boundary of the hits that stand after the new one, unless it meets one
that it cannot be compared with. -/
theorem insertionPlace_cases {hits : List Hit} (new : Hit)
    (hk : BestFirst (SortSpec.chainOrder index spec) hits) (low high : Nat) (hle : low ≤ high)
    (hhigh : high ≤ hits.length)
    (hrange : SearchRange (SortSpec.chainOrder index spec) hits new low high) :
    (∃ place, insertionPlace spec (entries spec index hits) (spec.entry index new) low high =
        .ok place ∧ place ≤ hits.length ∧
      SearchRange (SortSpec.chainOrder index spec) hits new place place) ∨
    ∃ fault, insertionPlace spec (entries spec index hits) (spec.entry index new) low high =
        .error fault ∧ ∃ x ∈ hits, SortSpec.chainOrder index spec x new = .error fault := by
  have hl := SortSpec.chainOrder_lawful index spec
  have hmiddle {middle : Nat} {other : KeyedHit} (hm : middle < hits.length)
      (hother : (entries spec index hits)[middle]? = some other) :
      spec.compareKeyed other (spec.entry index new) =
        SortSpec.chainOrder index spec hits[middle] new := by
    rw [getElem?_entries hits middle hm] at hother
    rw [← Option.some.inj hother, SortSpec.compareKeyed_entry]
  -- each probe narrows the range and keeps what is known of both sides of it
  fun_induction insertionPlace spec (entries spec index hits) (spec.entry index new) low high with
  | case1 low high _ middle other hother hgt ih =>
    have hm : middle < hits.length := by omega
    rw [hmiddle hm hother] at hgt
    exact ih (by omega) (by omega) (hrange.lower hl hk hm hgt)
  | case2 low high _ middle other hother o hne hok ih =>
    have hm : middle < hits.length := by omega
    rw [hmiddle hm hother] at hok
    exact ih (by omega) hhigh (hrange.raise hl hk hm ⟨o, hok, hne⟩)
  | case3 low high _ middle other hother fault herror =>
    have hm : middle < hits.length := by omega
    rw [hmiddle hm hother] at herror
    exact .inr ⟨fault, rfl, hits[middle], List.getElem_mem hm, herror⟩
  | case4 low high _ middle hnone =>
    have hm : middle < hits.length := by omega
    rw [getElem?_entries hits middle hm] at hnone
    cases hnone
  | case5 low high hlow =>
    obtain rfl : low = high := by omega
    exact .inl ⟨low, rfl, hhigh, hrange⟩

private def insertFound (spec : SortSpec) (capacity : Nat) (kept : Array KeyedHit)
    (entry : KeyedHit) : Except OrderFault (Array KeyedHit) := do
  let place ← insertionPlace spec kept entry 0 kept.size
  return (kept.insertIdxIfInBounds place entry).take capacity

private theorem keep_of_room {capacity : Nat} {kept : Array KeyedHit} {entry : KeyedHit}
    (h : kept.size < capacity) :
    keep spec capacity kept entry = insertFound spec capacity kept entry := by
  unfold keep
  simp only [Nat.not_le.mpr h, if_false]
  rfl

private theorem keep_of_full {capacity : Nat} {kept : Array KeyedHit} {entry last : KeyedHit}
    (h : capacity ≤ kept.size) (hlast : kept.back? = some last) :
    keep spec capacity kept entry = (spec.compareKeyed entry last).bind fun o =>
      if o ≠ .lt then .ok kept else insertFound spec capacity kept entry := by
  unfold keep
  simp only [h, if_true, hlast]
  rfl

private theorem insertFound_cases {hits : List Hit} (capacity : Nat) (new : Hit)
    (hk : BestFirst (SortSpec.chainOrder index spec) hits) :
    ((∀ x ∈ hits, Comparable (SortSpec.chainOrder index spec) x new) ∧
      insertFound spec capacity (entries spec index hits) (spec.entry index new) =
        .ok (entries spec index
          ((placeInto (SortSpec.chainOrder index spec) new hits).take capacity))) ∨
    ∃ fault, insertFound spec capacity (entries spec index hits) (spec.entry index new) =
        .error fault ∧ fault.kind = .sortExecution ∧
      ∃ x ∈ hits, ¬ Comparable (SortSpec.chainOrder index spec) x new := by
  unfold insertFound
  rw [size_entries]
  rcases insertionPlace_cases new hk 0 hits.length (Nat.zero_le _) (Nat.le_refl _)
    (.full hits new) with ⟨place, hok, hplace, hrange⟩ | ⟨fault, herror, x, hx, hxnew⟩
  · refine .inl ⟨hrange.comparable, ?_⟩
    rw [hok, hrange.placeInto_eq hplace]
    apply congrArg Except.ok
    apply Array.ext'
    simp [Array.insertIdxIfInBounds, hplace, entries, List.map_insertIdx, List.map_take]
  · refine .inr ⟨fault, by rw [herror]; rfl, SortSpec.kind_of_chainOrder_error hxnew, x, hx, ?_⟩
    rintro ⟨o, ho⟩
    rw [hxnew] at ho
    cases ho

/-- One offer either puts the hit in its place or meets a hit that it cannot be compared with. -/
theorem keep_cases {hits : List Hit} {capacity : Nat} (new : Hit)
    (hk : BestFirst (SortSpec.chainOrder index spec) hits) (hpos : 0 < capacity)
    (hlen : hits.length ≤ capacity) :
    ((∀ x ∈ hits, Comparable (SortSpec.chainOrder index spec) x new) ∧
      keep spec capacity (entries spec index hits) (spec.entry index new) =
        .ok (entries spec index
          ((placeInto (SortSpec.chainOrder index spec) new hits).take capacity))) ∨
    ∃ fault, keep spec capacity (entries spec index hits) (spec.entry index new) = .error fault ∧
      fault.kind = .sortExecution ∧
      ∃ x ∈ hits, ¬ Comparable (SortSpec.chainOrder index spec) x new := by
  have hl := SortSpec.chainOrder_lawful index spec
  have hfound := insertFound_cases capacity new hk
  rcases Nat.lt_or_ge hits.length capacity with hroom | hfull
  · rwa [keep_of_room (by rwa [size_entries])]
  have hne : hits ≠ [] := List.ne_nil_of_length_pos (by omega)
  have hback : (entries spec index hits).back? = some (spec.entry index (hits.getLast hne)) := by
    simp [entries, List.getLast?_eq_some_getLast hne]
  rw [keep_of_full (by rwa [size_entries]) hback, SortSpec.compareKeyed_entry]
  rcases hlast : SortSpec.chainOrder index spec new (hits.getLast hne) with fault | o
  · refine .inr ⟨fault, rfl, SortSpec.kind_of_chainOrder_error hlast, _, List.getLast_mem hne, ?_⟩
    intro hc
    obtain ⟨o, ho⟩ := hl.comparable_symm hc
    rw [hlast] at ho
    cases ho
  · by_cases ho : o = .lt
    · simpa [Except.bind, ho] using hfound
    · -- the new hit does not rank before the last one, hence before none of them
      have hlastNew : NotAfter (SortSpec.chainOrder index spec) (hits.getLast hne) new :=
        ⟨o.swap, hl.swap hlast, by cases o <;> simp_all⟩
      have hall := hk.notAfter_of_getLast hl hne hlastNew
      refine .inl ⟨fun x hx => (hall x hx).imp fun o ho => ho.1, ?_⟩
      rw [placeInto_eq_append hall, List.take_append_of_le_length (by omega),
        List.take_of_length_le (by omega)]
      simp [Except.bind, ho]

theorem collect_cases {session : Session} {kept : List Hit} {capacity : Nat} (total : Nat)
    {new : Hit} (hnew : spec.Keyed session new)
    (hk : BestFirst (SortSpec.chainOrder session.index spec) kept)
    (hlen : kept.length ≤ capacity) :
    ((∀ x ∈ kept, Comparable (SortSpec.chainOrder session.index spec) x new) ∧
      collect spec session ⟨capacity, entries spec session.index kept, total⟩ new =
        (⟨capacity, entries spec session.index
          ((placeInto (SortSpec.chainOrder session.index spec) new kept).take capacity),
          total + 1⟩, none)) ∨
    ∃ fault, collect spec session ⟨capacity, entries spec session.index kept, total⟩ new =
        (⟨capacity, entries spec session.index kept, total + 1⟩, some fault) ∧
      fault.kind = .sortExecution ∧
      ∃ x ∈ kept, ¬ Comparable (SortSpec.chainOrder session.index spec) x new := by
  unfold collect
  rcases Nat.eq_zero_or_pos capacity with rfl | hpos
  · obtain rfl : kept = [] := List.eq_nil_of_length_eq_zero (by omega)
    exact .inl ⟨by simp, by simp⟩
  · rw [SortSpec.Keyed] at hnew
    simp only [Nat.ne_of_gt hpos, if_false, hnew]
    rcases keep_cases new hk hpos hlen with ⟨hc, hok⟩ | ⟨fault, herror, hkind, hx⟩
    · exact .inl ⟨hc, by simp [Except.bind, hok]⟩
    · exact .inr ⟨fault, by simp [Except.bind, herror], hkind, hx⟩

/-- A run of offers keeps the best of them, or fails where a hit cannot be placed. -/
theorem collectAll_cases (location : String) {kept : List Hit} {capacity : Nat} (total : Nat)
    {offered : List Hit} (hd : ∀ new ∈ offered, ∃ d, index.document? new.id = some d)
    (hk : BestFirst (SortSpec.chainOrder index spec) kept) (hlen : kept.length ≤ capacity) :
    (Placeable (SortSpec.chainOrder index spec) capacity kept offered ∧
      collectAll spec ⟨location, index, false⟩ ⟨capacity, entries spec index kept, total⟩ offered =
        .ok ⟨capacity, entries spec index
          (keepBest (SortSpec.chainOrder index spec) capacity kept offered),
          total + offered.length⟩) ∨
    (¬ Placeable (SortSpec.chainOrder index spec) capacity kept offered ∧
      ∃ fault, collectAll spec ⟨location, index, false⟩ ⟨capacity, entries spec index kept, total⟩
        offered = .error fault ∧ fault.kind = .sortExecution) := by
  induction offered generalizing kept total with
  | nil => exact .inl ⟨trivial, rfl⟩
  | cons new rest ih =>
    obtain ⟨d, hnew⟩ := hd new (by simp)
    rcases collect_cases total (spec.keyedHit_eq_entry location hnew) hk hlen with
      ⟨hc, hok⟩ | ⟨fault, herror, hkind, hx⟩
    · have hk' := (bestFirst_placeInto (SortSpec.chainOrder_lawful index spec) hk hc).take capacity
      rcases ih (total + 1) (fun x hx => hd x (by simp [hx])) hk' (List.length_take_le _ _) with
        ⟨hp, hrun⟩ | ⟨hp, hrun⟩
      · refine .inl ⟨⟨hc, hp⟩, ?_⟩
        simp only [collectAll, hok, hrun, keepBest_cons, List.length_cons]
        congr 2
        omega
      · refine .inr ⟨fun h => hp h.2, ?_⟩
        simpa only [collectAll, hok] using hrun
    · obtain ⟨x, hx, hxnew⟩ := hx
      refine .inr ⟨fun h => hxnew (h.1 x hx), fault, ?_, hkind⟩
      simp only [collectAll, herror]

end PagedSearch.FieldCollector
