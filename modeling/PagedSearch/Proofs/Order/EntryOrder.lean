import PagedSearch.Proofs.Ranking.Rank

/-!
# The order of entries

Collectors compare entries, which hold the keys of a hit by each criterion. Two entries of one
session are compared as their hits are: a refusal is mutual and names a value that is no number,
only entries of one document tie, and the strict order is transitive whatever else is refused.
-/

namespace PagedSearch

namespace SortSpec

variable {spec : SortSpec} {session : Session} {x y : KeyedHit}

def Builds (spec : SortSpec) (session : Session) (x : KeyedHit) : Prop :=
  ∃ hit, spec.keyedHit session hit = .ok x

private theorem Builds.eq_entry (h : spec.Builds session x) :
    x = spec.entry session.index x.hit := by
  obtain ⟨hit, hx⟩ := h
  rcases keyedHit_cases spec session hit with hkeyed | ⟨fault, herror⟩
  · obtain rfl := Except.ok.inj (hx.symm.trans hkeyed)
    rfl
  · rw [hx] at herror
    cases herror

theorem exists_entry (hopen : session.isClosed = false) {hit : Hit} {d : Document}
    (hd : session.index.document? hit.id = some d) :
    ∃ x, spec.keyedHit session hit = .ok x ∧ x.hit = hit := by
  obtain ⟨location, index, closed⟩ := session
  obtain rfl : closed = false := hopen
  exact ⟨spec.entry index hit, keyedHit_eq_entry spec location hd, rfl⟩

private theorem compareKeyed_eq_chainOrder (hx : spec.Builds session x)
    (hy : spec.Builds session y) :
    spec.compareKeyed x y = chainOrder session.index spec x.hit y.hit := by
  have hentries := compareKeyed_entry spec session.index x.hit y.hit
  rwa [← hx.eq_entry, ← hy.eq_entry] at hentries

/-- The order of the entries of a session. An open session has an entry for every document. The
comparison of two entries meets neither keys of different kinds nor a value without its comparator:
it is refused only where a criterion finds a value that is no number, and then in both directions.
All other answers turn around with the entries, and a tie means that both are of one document. Of
three entries in ascending order the first stands before the last. -/
theorem compareKeyed_built (spec : SortSpec) (session : Session) :
    (session.isClosed = false → ∀ hit d, session.index.document? hit.id = some d →
      ∃ x, spec.keyedHit session hit = .ok x ∧ x.hit = hit) ∧
    ∀ x y, spec.Builds session x → spec.Builds session y →
      spec.compareKeyed x y ≠ .error .mismatched ∧ spec.compareKeyed x y ≠ .error .strayCustom ∧
      (∀ fault, spec.compareKeyed x y = .error fault →
        ∃ c ∈ spec, c.Refuses session.index x.hit y.hit fault) ∧
      ((∃ fault, spec.compareKeyed x y = .error fault) ↔
        ∃ fault, spec.compareKeyed y x = .error fault) ∧
      (∀ o, spec.compareKeyed x y = .ok o ↔ spec.compareKeyed y x = .ok o.swap) ∧
      (spec.compareKeyed x y = .ok .eq → x.hit.id = y.hit.id) ∧
      ∀ z, spec.Builds session z → spec.compareKeyed x y = .ok .lt →
        spec.compareKeyed y z = .ok .lt → spec.compareKeyed x z = .ok .lt := by
  refine ⟨fun hopen hit d hd => exists_entry hopen hd, fun x y hx hy => ?_⟩
  have hlawful := chainOrder_lawful session.index spec
  have hrefused : ∀ fault, spec.compareKeyed x y = .error fault →
      ∃ c ∈ spec, c.Refuses session.index x.hit y.hit fault := by
    intro fault herror
    rw [compareKeyed_eq_chainOrder hx hy] at herror
    obtain ⟨c, hc, hfault⟩ := exists_criterion_of_chainOrder_error herror
    exact ⟨c, hc, Criterion.refuses_of_natural_error hfault⟩
  refine ⟨?_, ?_, hrefused, ?_, ?_, ?_, ?_⟩
  · intro hmismatched
    obtain ⟨c, -, order, value, -, hfault, -⟩ := hrefused _ hmismatched
    cases hfault
  · intro hstray
    obtain ⟨c, -, order, value, -, hfault, -⟩ := hrefused _ hstray
    cases hfault
  · rw [compareKeyed_eq_chainOrder hx hy, compareKeyed_eq_chainOrder hy hx]
    exact hlawful.refused_comm
  · intro o
    rw [compareKeyed_eq_chainOrder hx hy, compareKeyed_eq_chainOrder hy hx]
    exact hlawful.eq_ok_comm
  · rw [compareKeyed_eq_chainOrder hx hy]
    exact id_eq_of_chainOrder_eq
  · intro z hz
    rw [compareKeyed_eq_chainOrder hx hy, compareKeyed_eq_chainOrder hy hz,
      compareKeyed_eq_chainOrder hx hz]
    exact hlawful.lt_trans

def pricedPens : Index :=
  .ofDocuments .standard
    [⟨[⟨"price", .text "5"⟩]⟩, ⟨[⟨"price", .integer 7⟩]⟩, ⟨[⟨"price", .text "soon"⟩]⟩,
      ⟨[⟨"price", .text "9.5"⟩]⟩]

def penEntry (id : Nat) : KeyedHit := entry [byPrice] pricedPens ⟨id, 1⟩

theorem compareKeyed_built_pens :
    compareKeyed [byPrice] (penEntry 0) (penEntry 1) = .ok .lt ∧
    compareKeyed [byPrice] (penEntry 1) (penEntry 3) = .ok .lt ∧
    compareKeyed [byPrice] (penEntry 0) (penEntry 3) = .ok .lt ∧
    compareKeyed [byPrice] (penEntry 3) (penEntry 0) = .ok .gt ∧
    ∃ fault, compareKeyed [byPrice] (penEntry 2) (penEntry 1) = .error fault := by
  obtain ⟨hentries, horder⟩ := compareKeyed_built [byPrice] ⟨"pens", pricedPens, false⟩
  have hbuilds : ∀ id ∈ [0, 1, 2, 3],
      Builds [byPrice] ⟨"pens", pricedPens, false⟩ (penEntry id) := by
    intro id hid
    have hstored : ∀ id ∈ [0, 1, 2, 3], (pricedPens.document? id).isSome = true := by
      decide +kernel
    obtain ⟨d, hd⟩ := Option.isSome_iff_exists.mp (hstored id hid)
    obtain ⟨x, hx, hhit⟩ := hentries rfl ⟨id, 1⟩ d hd
    have hsame := Builds.eq_entry ⟨_, hx⟩
    rw [hhit] at hsame
    exact ⟨_, hsame ▸ hx⟩
  have hlow : compareKeyed [byPrice] (penEntry 0) (penEntry 1) = .ok .lt := by decide +kernel
  have hhigh : compareKeyed [byPrice] (penEntry 1) (penEntry 3) = .ok .lt := by decide +kernel
  have hrefused : ∃ fault, compareKeyed [byPrice] (penEntry 1) (penEntry 2) = .error fault :=
    ⟨.comparator "compare.numeric" "price" ⟨.text "soon"⟩, by decide +kernel⟩
  obtain ⟨-, -, -, -, -, -, htrans⟩ :=
    horder _ _ (hbuilds 0 (by decide)) (hbuilds 1 (by decide))
  have hacross := htrans _ (hbuilds 3 (by decide)) hlow hhigh
  obtain ⟨-, -, -, -, hswap, -⟩ := horder _ _ (hbuilds 0 (by decide)) (hbuilds 3 (by decide))
  obtain ⟨-, -, -, hmutual, -⟩ := horder _ _ (hbuilds 1 (by decide)) (hbuilds 2 (by decide))
  exact ⟨hlow, hhigh, hacross, (hswap .lt).mp hacross, hmutual.mp hrefused⟩

end SortSpec

end PagedSearch
