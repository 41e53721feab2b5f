import PagedSearch.Proofs.Outcome
import PagedSearch.Proofs.Ranking.Rank

/-!
# Result pages

A page asks for as many hits as it takes to reach its end, so that the cut of the ranking, the range
of the page and the end of the matches agree on what it shows. The sums are held at the largest
count, which no rank reaches.
-/

namespace PagedSearch

variable {index : Index} {query : Query} {spec : SortSpec}

def Index.pageHit (index : Index) (hit : Hit) : PageHit :=
  ⟨hit.id, hit.score, (index.documentOf hit).fields⟩

private theorem flatMap_windows {α : Type} (xs : List α) (size count : Nat) :
    (List.range count).flatMap (fun i => (xs.drop (i * size)).take size) =
      xs.take (count * size) := by
  induction count with
  | zero => simp
  | succ count ih =>
    rw [List.range_succ, List.flatMap_append, ih, Nat.succ_mul, List.take_add]
    simp

namespace Page

private theorem range_fst (total start size : Nat) : (range total start size).1 = start - 1 := by
  simp only [range]
  split <;> rfl

private theorem range_snd (total start size : Nat) :
    (range total start size).2 = max (start - 1) (min total (boundedSum (start - 1) size)) := by
  simp only [range]
  split
  · rename_i hle
    exact (Nat.max_eq_left hle).symm
  · rename_i hlt
    exact (Nat.max_eq_right (by omega)).symm

private theorem range_window {α : Type} {xs : List α} {start : Nat} (hstart : 1 ≤ start)
    (hfits : xs.length < countLimit) (size : Nat) :
    ((xs.take (Session.rankedCount start size)).take (range xs.length start size).2).drop
        (start - 1) =
      (xs.drop (start - 1)).take size := by
  rw [List.take_take, List.drop_take, List.take_eq_take_iff, List.length_drop, range_snd]
  simp only [Session.rankedCount, boundedSum]
  omega

end Page

namespace Session

private theorem record_eq (location : String) {hit : Hit} (h : index.Matches query hit) :
    record ⟨location, index, false⟩ hit = .ok (index.pageHit hit) := by
  obtain ⟨d, hd⟩ := h.exists_document
  simp [record, document, read, hd, Index.pageHit, Index.documentOf, bind, Except.bind, pure,
    Except.pure, Except.map]

private theorem page_eq (location : String) {ranking : Ranking}
    (h : ∀ hit ∈ ranking.hits, index.Matches query hit) (start size : Nat) :
    page ⟨location, index, false⟩ ranking start size =
      .ok ⟨ranking.total, start, size,
        ((ranking.hits.take (Page.range ranking.total start size).2).drop (start - 1)).map
          index.pageHit⟩ := by
  have hrecords : ∀ hit ∈ (ranking.hits.take (Page.range ranking.total start size).2).drop
      (start - 1), record ⟨location, index, false⟩ hit = .ok (index.pageHit hit) :=
    fun hit hmem => record_eq location (h hit (List.mem_of_mem_take (List.mem_of_mem_drop hmem)))
  simp only [page, Page.range_fst, mapM_eq_ok hrecords]
  rfl

private theorem pageOfQuery_cases (location : String) (index : Index) (query : Query)
    (spec : SortSpec) (start size : Nat) :
    (∃ ranking, rank ⟨location, index, false⟩ query spec (rankedCount start size) = .ok ranking ∧
      pageOfQuery ⟨location, index, false⟩ query spec start size =
        .ok ⟨ranking.total, start, size,
          ((ranking.hits.take (Page.range ranking.total start size).2).drop (start - 1)).map
            index.pageHit⟩) ∨
    ∃ fault, rank ⟨location, index, false⟩ query spec (rankedCount start size) = .error fault ∧
      pageOfQuery ⟨location, index, false⟩ query spec start size = .error fault := by
  rcases hrank : rank ⟨location, index, false⟩ query spec (rankedCount start size) with
    fault | ranking
  · refine .inr ⟨fault, rfl, ?_⟩
    rw [pageOfQuery, hrank]
    rfl
  · refine .inl ⟨ranking, rfl, ?_⟩
    rw [pageOfQuery, hrank]
    simp only [bind, Except.bind, page_eq location (rank_eq_ok hrank).1 start size]
    rfl

theorem pageOfQuery_eq_ok {location : String} {start size : Nat} {page : Page}
    (h : pageOfQuery ⟨location, index, false⟩ query spec start size = .ok page) :
    page.total = (index.hits query).length ∧ page.start = start ∧
      page.hits.length ≤ countLimit - (start - 1) ∧
      (1 ≤ start → page.total < countLimit →
        page.hits.length = min page.total (start + size - 1) - (start - 1)) := by
  rcases pageOfQuery_cases location index query spec start size with
    ⟨ranking, hrank, hok⟩ | ⟨fault, _, herror⟩
  · obtain ⟨_, hlength, htotal⟩ := rank_eq_ok hrank
    rw [hok] at h
    obtain rfl := Except.ok.inj h
    refine ⟨htotal, rfl, ?_, ?_⟩
    · rw [List.length_map, List.length_drop, List.length_take, Page.range_snd, boundedSum]
      omega
    · intro hstart hfits
      simp only at hfits
      rw [List.length_map, List.length_drop, List.length_take, Page.range_snd, hlength, rankedCount,
        boundedSum, boundedSum]
      simp only
      omega
  · rw [herror] at h
    cases h

theorem kind_of_pageOfQuery_error {location : String} {start size : Nat} {fault : OrderFault}
    (h : pageOfQuery ⟨location, index, false⟩ query spec start size = .error fault) :
    fault.kind = .sortExecution := by
  rcases pageOfQuery_cases location index query spec start size with
    ⟨ranking, _, hok⟩ | ⟨other, hrank, herror⟩
  · rw [hok] at h
    cases h
  · rw [herror] at h
    rw [← Except.error.inj h]
    exact kind_of_rank_error hrank

theorem pageOfQuery_eq (location : String) {ranking : List Hit} {start : Nat} (size : Nat)
    (hstart : 1 ≤ start) (hfits : ranking.length < countLimit)
    (hrank : rank ⟨location, index, false⟩ query spec (rankedCount start size) =
      .ok ⟨ranking.take (rankedCount start size), ranking.length⟩) :
    pageOfQuery ⟨location, index, false⟩ query spec start size =
      .ok ⟨ranking.length, start, size,
        ((ranking.drop (start - 1)).take size).map index.pageHit⟩ := by
  rcases pageOfQuery_cases location index query spec start size with
    ⟨other, hother, hok⟩ | ⟨fault, hother, _⟩
  · rw [hrank] at hother
    obtain rfl := Except.ok.inj hother
    rw [hok, ← Page.range_window hstart hfits size]
  · rw [hrank] at hother
    cases hother

/-- A page shows the ranks from its start on, as many as fit on it, with the fields of their
documents. Pages of one size, one after the other, show the whole ranking. No index in memory has as
many documents as the largest count. -/
theorem pages_of_ranking (location : String) (index : Index) (query : Query) (spec : SortSpec)
    (hsize : index.size < countLimit)
    (hcomparable : ∀ a b, index.Matches query a → index.Matches query b → a.id ≠ b.id →
      Comparable (spec.compareHits ⟨location, index, false⟩) a b) :
    ∃ ranking, index.IsRanking query spec ranking ∧
      (∀ hit ∈ ranking, index.document? hit.id = some (index.documentOf hit)) ∧
      (∀ start size, 1 ≤ start → ∃ page,
        pageOfQuery ⟨location, index, false⟩ query spec start size = .ok page ∧
        page.total = ranking.length ∧ page.start = start ∧ page.size = size ∧
        page.hits.length = min ranking.length (start + size - 1) - (start - 1) ∧
        page.hits = ((ranking.drop (start - 1)).take size).map index.pageHit) ∧
      ∀ size count, ranking.length ≤ count * size → ∃ pages : List Page,
        ((List.range count).mapM fun i =>
          pageOfQuery ⟨location, index, false⟩ query spec (1 + i * size) size) = .ok pages ∧
        pages.flatMap Page.hits = ranking.map index.pageHit ∧
        ((pages.flatMap Page.hits).map PageHit.id).Nodup := by
  have hpairs := pairwise_of_comparable location hcomparable
  obtain ⟨ranking, hranking, hrank⟩ := exists_ranking location hpairs
  have hfits : ranking.length < countLimit := by
    rw [hranking.length_eq]
    exact Nat.lt_of_le_of_lt (Index.length_hits_le index query) hsize
  have hpage (start size : Nat) (hstart : 1 ≤ start) :
      pageOfQuery ⟨location, index, false⟩ query spec start size =
        .ok ⟨ranking.length, start, size,
          ((ranking.drop (start - 1)).take size).map index.pageHit⟩ :=
    pageOfQuery_eq location size hstart hfits (hrank _)
  refine ⟨ranking, hranking, ?_, ?_, ?_⟩
  · intro hit hmem
    obtain ⟨d, hd⟩ := ((hranking.complete hit).mp hmem).exists_document
    simp [Index.documentOf, hd]
  · intro start size hstart
    refine ⟨_, hpage start size hstart, rfl, rfl, rfl, ?_, rfl⟩
    rw [List.length_map, List.length_take, List.length_drop]
    omega
  · intro size count hcount
    let shown (i : Nat) : Page :=
      ⟨ranking.length, 1 + i * size, size,
        ((ranking.drop (1 + i * size - 1)).take size).map index.pageHit⟩
    have hpages : ((List.range count).mapM fun i =>
        pageOfQuery ⟨location, index, false⟩ query spec (1 + i * size) size) =
          .ok ((List.range count).map shown) :=
      mapM_eq_ok fun i _ => hpage (1 + i * size) size (by omega)
    have hall : ((List.range count).map shown).flatMap Page.hits = ranking.map index.pageHit := by
      calc
        _ = ((List.range count).flatMap fun i => (ranking.drop (i * size)).take size).map
            index.pageHit := by
          simp only [List.flatMap_map, List.map_flatMap, shown, Nat.add_sub_cancel_left]
        _ = ranking.map index.pageHit := by
          rw [flatMap_windows, List.take_of_length_le hcount]
    refine ⟨_, hpages, hall, ?_⟩
    rw [hall, List.map_map]
    exact hranking.nodup_ids

theorem pages_of_ranking_pens :
    ∃ page, pageOfQuery ⟨"pens", pens, false⟩ penQuery [latestFirst, byPrice] 2 countLimit =
      .ok page ∧ page.total = 2 ∧ page.hits.length = 1 := by
  have hsize : pens.size < countLimit := by decide +kernel
  obtain ⟨ranking, hranking, -, hpage, -⟩ :=
    pages_of_ranking "pens" pens penQuery [latestFirst, byPrice] hsize
      fun _ _ ha hb hne => latestFirst_comparable "pens" ha hb hne
  have hlength : ranking.length = 2 := by
    rw [hranking.length_eq, ← List.length_map (f := Hit.id), ids_pens]
    rfl
  obtain ⟨page, hok, htotal, -, -, hcount, -⟩ := hpage 2 countLimit (by decide)
  refine ⟨page, hok, htotal.trans hlength, ?_⟩
  rw [hcount, hlength]
  decide

end Session

end PagedSearch
