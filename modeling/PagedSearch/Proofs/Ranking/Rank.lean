import Mathlib.Data.List.Pairwise
import PagedSearch.Ranking.Page
import PagedSearch.Proofs.Ranking.FieldCollector
import PagedSearch.Proofs.Ranking.Matches
import PagedSearch.Proofs.Ranking.ScoreCollector

/-!
# Ranking

Both collectors keep the best of the matches by one order of hits, so a search hands out the front
of the ranking of all matches. How many hits are asked for decides only where it is cut off, and
whether the comparison of two hits that cannot be compared is ever reached.
-/

namespace PagedSearch

variable {index : Index} {query : Query} {spec : SortSpec}

/-- All matches of a query, each of them before those that it ranks before. -/
structure Index.IsRanking (index : Index) (query : Query) (spec : SortSpec)
    (ranking : List Hit) : Prop where
  complete : ∀ hit, hit ∈ ranking ↔ index.Matches query hit
  ordered : ranking.Pairwise (SortSpec.RanksBefore index spec)

namespace Index.IsRanking

variable {ranking other : List Hit}

private theorem nodup (h : index.IsRanking query spec ranking) : ranking.Nodup :=
  h.ordered.imp fun hab heq => by
    subst heq
    exact hab.asymm hab

private theorem perm_hits (h : index.IsRanking query spec ranking) :
    ranking.Perm (index.hits query) := by
  rw [List.perm_ext_iff_of_nodup h.nodup (nodup_hits index query)]
  intro hit
  rw [h.complete, mem_hits]

theorem length_eq (h : index.IsRanking query spec ranking) :
    ranking.length = (index.hits query).length := h.perm_hits.length_eq

theorem nodup_ids (h : index.IsRanking query spec ranking) : (ranking.map Hit.id).Nodup := by
  rw [(h.perm_hits.map Hit.id).nodup_iff]
  exact List.pairwise_map.mpr ((hits_ascending index query).imp Nat.ne_of_lt)

theorem unique (h : index.IsRanking query spec ranking)
    (ho : index.IsRanking query spec other) : ranking = other :=
  (h.perm_hits.trans ho.perm_hits.symm).eq_of_pairwise
    (fun _ _ _ _ hab hba => absurd hba hab.asymm) h.ordered ho.ordered

end Index.IsRanking

namespace Session

/-- A search keeps the best matches by the chain, unless one of them cannot be placed. -/
theorem rank_cases (location : String) (index : Index) (query : Query) (spec : SortSpec)
    (count : Nat) :
    (Placeable (SortSpec.chainOrder index spec.chain) count [] (index.hits query) ∧
      rank ⟨location, index, false⟩ query spec count =
        .ok ⟨keepBest (SortSpec.chainOrder index spec.chain) count [] (index.hits query),
          (index.hits query).length⟩) ∨
    (¬ Placeable (SortSpec.chainOrder index spec.chain) count [] (index.hits query) ∧
      ∃ fault, rank ⟨location, index, false⟩ query spec count = .error fault ∧
        fault.kind = .sortExecution) := by
  cases spec with
  | nil =>
    have hchain : SortSpec.chainOrder index (SortSpec.chain []) = byRelevance :=
      chainOrder_relevance_eq index
    obtain ⟨hkept, htotal⟩ := ScoreCollector.kept_collect_run count (index.hits query)
    rw [hchain]
    refine .inl ⟨placeable_of_pairwise ?_ count, ?_⟩
    · exact List.pairwise_of_forall fun a b => byRelevance_comparable a b
    · rw [← hkept, ← htotal]
      rfl
  | cons c rest =>
    have hd : ∀ new ∈ index.hits query, ∃ d, index.document? new.id = some d :=
      fun new hnew => (Index.mem_hits.mp hnew).exists_document
    have hrun := FieldCollector.collectAll_cases location 0 hd
      (.nil : BestFirst (SortSpec.chainOrder index (c :: rest)) []) (Nat.zero_le count)
    have hrank : rank ⟨location, index, false⟩ query (c :: rest) count =
        (FieldCollector.collectAll (c :: rest) ⟨location, index, false⟩
          ⟨count, FieldCollector.entries (c :: rest) index [], 0⟩ (index.hits query)).map
            fun collector => ⟨collector.hits, collector.total⟩ := rfl
    rw [hrank]
    rcases hrun with ⟨hp, hok⟩ | ⟨hp, fault, herror, hkind⟩
    · refine .inl ⟨hp, ?_⟩
      rw [hok]
      simp only [Except.map, FieldCollector.hits_entries, Nat.zero_add]
      rfl
    · refine .inr ⟨hp, fault, ?_, hkind⟩
      rw [herror]
      rfl

/-- Whatever a search hands out are matches, as many as were asked for if there are so many, and it
counts them all. -/
theorem rank_eq_ok {location : String} {count : Nat} {ranking : Ranking}
    (h : rank ⟨location, index, false⟩ query spec count = .ok ranking) :
    (∀ hit ∈ ranking.hits, index.Matches query hit) ∧
      ranking.hits.length = min count ranking.total ∧
      ranking.total = (index.hits query).length := by
  rcases rank_cases location index query spec count with ⟨_, hok⟩ | ⟨_, fault, herror, _⟩
  · rw [hok] at h
    obtain rfl := Except.ok.inj h
    refine ⟨?_, ?_, rfl⟩
    · intro hit hmem
      -- what is kept is the front of what would be kept with room for everything
      rw [keepBest_eq_take] at hmem
      have hin := (keepBest_length_perm (index.hits query)).mem_iff.mp (List.mem_of_mem_take hmem)
      exact Index.mem_hits.mp hin
    · have hnone : ([] : List Hit).length ≤ count := Nat.zero_le count
      simpa using length_keepBest (index.hits query) hnone
  · rw [herror] at h
    cases h

theorem kind_of_rank_error {location : String} {count : Nat} {fault : OrderFault}
    (h : rank ⟨location, index, false⟩ query spec count = .error fault) :
    fault.kind = .sortExecution := by
  rcases rank_cases location index query spec count with ⟨_, hok⟩ | ⟨_, other, herror, hkind⟩
  · rw [hok] at h
    cases h
  · rw [herror] at h
    rw [← Except.error.inj h]
    exact hkind

theorem pairwise_comparable_iff :
    (index.hits query).Pairwise (Comparable (SortSpec.chainOrder index spec.chain)) ↔
      ¬ ∃ a b, index.Matches query a ∧ index.Matches query b ∧ a.id ≠ b.id ∧
        SortSpec.Incomparable index spec a b := by
  have hl := SortSpec.chainOrder_lawful index spec.chain
  constructor
  · rintro hpairs ⟨a, b, ha, hb, hne, hab⟩
    have : Std.Symm (Comparable (SortSpec.chainOrder index spec.chain)) :=
      ⟨fun _ _ h => hl.comparable_symm h⟩
    have hc := hpairs.forall (Index.mem_hits.mpr ha) (Index.mem_hits.mpr hb)
      fun heq => hne (heq ▸ rfl)
    exact SortSpec.comparable_iff.mp (SortSpec.comparable_chain.mp hc) hab
  · intro hnone
    refine (Index.hits_ascending index query).imp_of_mem fun {a b} ha hb hlt => ?_
    refine SortSpec.comparable_chain.mpr (SortSpec.comparable_iff.mpr fun hab => hnone ?_)
    exact ⟨a, b, Index.mem_hits.mp ha, Index.mem_hits.mp hb, Nat.ne_of_lt hlt, hab⟩

theorem pairwise_of_comparable (location : String)
    (hcomparable : ∀ a b, index.Matches query a → index.Matches query b → a.id ≠ b.id →
      Comparable (spec.compareHits ⟨location, index, false⟩) a b) :
    (index.hits query).Pairwise (Comparable (SortSpec.chainOrder index spec.chain)) := by
  rw [pairwise_comparable_iff]
  rintro ⟨a, b, ha, hb, hne, hab⟩
  obtain ⟨d, hd⟩ := ha.exists_document
  obtain ⟨e, he⟩ := hb.exists_document
  obtain ⟨o, ho⟩ := hcomparable a b ha hb hne
  rw [SortSpec.compareHits_eq spec location hd he] at ho
  exact SortSpec.comparable_iff.mp ⟨o, ho⟩ hab

theorem isRanking_keepBest
    (hpairs : (index.hits query).Pairwise (Comparable (SortSpec.chainOrder index spec.chain))) :
    index.IsRanking query spec (keepBest (SortSpec.chainOrder index spec.chain)
      (index.hits query).length [] (index.hits query)) := by
  have hl := SortSpec.chainOrder_lawful index spec.chain
  have hperm : (keepBest (SortSpec.chainOrder index spec.chain) (index.hits query).length []
      (index.hits query)).Perm (index.hits query) := keepBest_length_perm _
  have hbest := bestFirst_keepBest hl .nil
    (placeable_of_pairwise hpairs (index.hits query).length)
  have hnodup := hperm.nodup_iff.mpr (Index.nodup_hits index query)
  constructor
  · intro hit
    rw [hperm.mem_iff, Index.mem_hits]
  · refine (List.Pairwise.and hbest hnodup).imp_of_mem ?_
    rintro a b ha hb ⟨⟨o, ho, hog⟩, hne⟩
    have hma := Index.mem_hits.mp (hperm.mem_iff.mp ha)
    have hmb := Index.mem_hits.mp (hperm.mem_iff.mp hb)
    rw [SortSpec.ranksBefore_iff, ho]
    -- a tie is decided by id, and a document matches once
    cases o with
    | lt => rfl
    | eq => exact absurd (hma.eq_of_id_eq hmb (SortSpec.id_eq_of_chainOrder_eq ho)) hne
    | gt => exact absurd rfl hog

/-- Where no two matches are incomparable, each search hands out the front of the ranking. -/
theorem exists_ranking (location : String)
    (hpairs : (index.hits query).Pairwise (Comparable (SortSpec.chainOrder index spec.chain))) :
    ∃ ranking, index.IsRanking query spec ranking ∧ ∀ count,
      rank ⟨location, index, false⟩ query spec count =
        .ok ⟨ranking.take count, ranking.length⟩ := by
  have hranking := isRanking_keepBest hpairs
  refine ⟨_, hranking, ?_⟩
  intro count
  rw [hranking.length_eq, ← keepBest_eq_take]
  rcases rank_cases location index query spec count with ⟨_, hok⟩ | ⟨hp, _⟩
  · exact hok
  · exact absurd (placeable_of_pairwise hpairs count) hp

/-- If the comparison of two matches never fails, a search returns the first of all matches in the
order of the chain, and counts them all. -/
theorem rank_of_comparable (location : String) (index : Index) (query : Query) (spec : SortSpec)
    (hcomparable : ∀ a b, index.Matches query a → index.Matches query b → a.id ≠ b.id →
      Comparable (spec.compareHits ⟨location, index, false⟩) a b) :
    ∃ ranking, index.IsRanking query spec ranking ∧ ∀ count,
      rank ⟨location, index, false⟩ query spec count =
        .ok ⟨ranking.take count, ranking.length⟩ :=
  exists_ranking location (pairwise_of_comparable location hcomparable)

end Session

def pens : Index :=
  .ofDocuments .standard
    [⟨[⟨"name", .text "red pen"⟩, ⟨"price", .text "soon"⟩]⟩,
      ⟨[⟨"name", .text "blue pen"⟩, ⟨"price", .integer 7⟩]⟩]

def penQuery : Query := .term ⟨"name", "pen"⟩ 1

def byPrice : Criterion := ⟨"price", .custom ⟨"compare.numeric", [], .numeric none⟩, false⟩

def latestFirst : Criterion := ⟨"", .doc, true⟩

theorem ids_pens : (pens.hits penQuery).map Hit.id = [0, 1] := by decide +kernel

private theorem exists_pen {id : Nat} (h : id ∈ [0, 1]) :
    ∃ hit, pens.Matches penQuery hit ∧ hit.id = id := by
  rw [← ids_pens] at h
  obtain ⟨hit, hmem, hid⟩ := List.mem_map.mp h
  exact ⟨hit, Index.mem_hits.mp hmem, hid⟩

private theorem byPrice_rejects {hit : Hit} (h : hit.id = 0) : byPrice.Rejects pens hit := by
  have hprice : byPrice.valueOf pens hit = some (.text "soon") := by
    rw [Criterion.valueOf, Index.documentOf, h]
    decide +kernel
  exact ⟨.text "soon", hprice, by decide +kernel⟩

theorem latestFirst_comparable (location : String) {a b : Hit} (ha : index.Matches query a)
    (hb : index.Matches query b) (hne : a.id ≠ b.id) :
    Comparable (SortSpec.compareHits [latestFirst, byPrice] ⟨location, index, false⟩) a b := by
  have hties : latestFirst.Ties index a b ↔ a.id = b.id := by
    simp [Criterion.Ties, Criterion.natural, Criterion.naturalOrder, Criterion.keyOf, latestFirst]
  have hrejects (hit : Hit) : ¬ latestFirst.Rejects index hit := by
    simp [Criterion.Rejects, latestFirst]
  obtain ⟨d, hd⟩ := ha.exists_document
  obtain ⟨e, he⟩ := hb.exists_document
  rw [Comparable, SortSpec.compareHits_eq [latestFirst, byPrice] location hd he]
  refine SortSpec.comparable_iff.mpr ?_
  rintro ((hreject | hreject) | ⟨hab, _⟩)
  · exact hrejects a hreject
  · exact hrejects b hreject
  · exact hne (hties.mp hab)

namespace Session

theorem rank_of_comparable_pens :
    (pens.hits penQuery).map Hit.id = [0, 1] ∧
    ∃ ranking, pens.IsRanking penQuery [latestFirst, byPrice] ranking ∧ ∀ count,
      rank ⟨"pens", pens, false⟩ penQuery [latestFirst, byPrice] count =
        .ok ⟨ranking.take count, ranking.length⟩ :=
  ⟨ids_pens, rank_of_comparable "pens" pens penQuery [latestFirst, byPrice]
    fun _ _ ha hb hne => latestFirst_comparable "pens" ha hb hne⟩

/-- A smaller window shows the front of a larger one. A window for all matches cannot be filled if
and only if two of the matches are incomparable. -/
theorem rank_windows (location : String) (index : Index) (query : Query) (spec : SortSpec) :
    (∀ n m ranking, n ≤ m → rank ⟨location, index, false⟩ query spec m = .ok ranking →
      rank ⟨location, index, false⟩ query spec n =
        .ok ⟨ranking.hits.take n, ranking.total⟩) ∧
    (∀ m, (index.hits query).length ≤ m →
      ((∃ fault, rank ⟨location, index, false⟩ query spec m = .error fault) ↔
        ∃ a b, index.Matches query a ∧ index.Matches query b ∧ a.id ≠ b.id ∧
          SortSpec.Incomparable index spec a b)) ∧
    ∀ m fault, rank ⟨location, index, false⟩ query spec m = .error fault →
      fault.kind = .sortExecution := by
  refine ⟨?_, ?_, ?_⟩
  · intro n m ranking hnm hm
    rcases rank_cases location index query spec m with ⟨hp, hok⟩ | ⟨_, fault, herror, _⟩
    · have hpn := hp.take hnm
      rw [List.take_nil] at hpn
      rw [hok] at hm
      obtain rfl := Except.ok.inj hm
      rcases rank_cases location index query spec n with ⟨_, hokn⟩ | ⟨hnot, _⟩
      · simpa [← keepBest_take hnm] using hokn
      · exact absurd hpn hnot
    · rw [herror] at hm
      cases hm
  · intro m hroom
    have hplace : Placeable (SortSpec.chainOrder index spec.chain) m [] (index.hits query) ↔
        (index.hits query).Pairwise (Comparable (SortSpec.chainOrder index spec.chain)) := by
      rw [placeable_iff (by simpa using hroom)]
      simp
    rw [pairwise_comparable_iff] at hplace
    rcases rank_cases location index query spec m with ⟨hp, hok⟩ | ⟨hp, fault, herror, _⟩
    · refine iff_of_false ?_ (hplace.mp hp)
      rintro ⟨fault, herror⟩
      rw [hok] at herror
      cases herror
    · rw [hplace, not_not] at hp
      exact iff_of_true ⟨fault, herror⟩ hp
  · intro m fault hm
    exact kind_of_rank_error hm

theorem rank_windows_pens :
    (∃ ranking, rank ⟨"pens", pens, false⟩ penQuery [latestFirst, byPrice] 2 = .ok ranking ∧
      rank ⟨"pens", pens, false⟩ penQuery [latestFirst, byPrice] 1 =
        .ok ⟨ranking.hits.take 1, ranking.total⟩) ∧
    ∃ fault, rank ⟨"pens", pens, false⟩ penQuery [byPrice] 2 = .error fault ∧
      fault.kind = .sortExecution := by
  constructor
  · obtain ⟨hfront, _⟩ := rank_windows "pens" pens penQuery [latestFirst, byPrice]
    rcases hwhole : rank ⟨"pens", pens, false⟩ penQuery [latestFirst, byPrice] 2 with
      fault | ranking
    · have hok : (rank ⟨"pens", pens, false⟩ penQuery [latestFirst, byPrice] 2).isOk = true := by
        decide +kernel
      rw [hwhole] at hok
      cases hok
    · exact ⟨ranking, rfl, hfront 1 2 ranking (by decide) hwhole⟩
  · obtain ⟨_, hfull, hkind⟩ := rank_windows "pens" pens penQuery [byPrice]
    obtain ⟨red, hred, hid⟩ := exists_pen (List.mem_cons_self : 0 ∈ [0, 1])
    obtain ⟨blue, hblue, hid'⟩ := exists_pen (by decide : 1 ∈ [0, 1])
    have hroom : (pens.hits penQuery).length ≤ 2 := by decide +kernel
    obtain ⟨fault, herror⟩ := (hfull 2 hroom).mpr
      ⟨red, blue, hred, hblue, by simp [hid, hid'], .inl (.inl (byPrice_rejects hid))⟩
    exact ⟨fault, herror, hkind 2 fault herror⟩

end Session

end PagedSearch
