import Mathlib.Data.List.Nodup
import PagedSearch.Index.Basic

/-! # The matches of a query -/

namespace PagedSearch.Index

variable {index : Index} {query : Query}

def Matches (index : Index) (query : Query) (hit : Hit) : Prop :=
  ∃ entry, index.entries[hit.id]? = some entry ∧
    query.score entry.counts index.statistics = some hit.score

theorem mem_hits {hit : Hit} : hit ∈ index.hits query ↔ index.Matches query hit := by
  simp only [hits, Matches, List.mem_filterMap, Option.map_eq_some_iff, Prod.exists]
  constructor
  · rintro ⟨entry, id, hmem, score, hscore, rfl⟩
    refine ⟨entry, ?_, hscore⟩
    simpa using List.mem_zipIdx_iff_getElem?.mp hmem
  · rintro ⟨entry, hentry, hscore⟩
    refine ⟨entry, hit.id, ?_, hit.score, hscore, rfl⟩
    simpa [List.mem_zipIdx_iff_getElem?] using hentry

theorem hits_ascending (index : Index) (query : Query) :
    (index.hits query).Pairwise fun a b => a.id < b.id := by
  have hids : (index.entries.toList.zipIdx).Pairwise fun a b => a.2 < b.2 := by
    rw [List.pairwise_iff_getElem]
    intro i j hi hj hij
    simpa using hij
  refine List.Pairwise.filterMap _ ?_ hids
  intro a b hab x hx y hy
  obtain ⟨_, _, rfl⟩ := Option.map_eq_some_iff.mp hx
  obtain ⟨_, _, rfl⟩ := Option.map_eq_some_iff.mp hy
  exact hab

theorem nodup_hits (index : Index) (query : Query) : (index.hits query).Nodup :=
  (hits_ascending index query).imp fun hab heq => by simp [heq] at hab

theorem Matches.eq_of_id_eq {a b : Hit} (ha : index.Matches query a) (hb : index.Matches query b)
    (hid : a.id = b.id) : a = b := by
  obtain ⟨entry, hentry, hscore⟩ := ha
  obtain ⟨other, hother, hscore'⟩ := hb
  rw [hid, hother] at hentry
  obtain rfl := Option.some.inj hentry
  rw [hscore'] at hscore
  cases a
  cases b
  simp_all

theorem Matches.exists_document {hit : Hit} (h : index.Matches query hit) :
    ∃ d, index.document? hit.id = some d := by
  obtain ⟨entry, hentry, _⟩ := h
  exact ⟨entry.stored, by simp [document?, hentry]⟩

theorem length_hits_le (index : Index) (query : Query) :
    (index.hits query).length ≤ index.size := by
  have h := List.length_filterMap_le (fun place : IndexEntry × Nat =>
    (query.score place.1.counts index.statistics).map fun score => (⟨place.2, score⟩ : Hit))
    index.entries.toList.zipIdx
  simpa [hits, size] using h

end PagedSearch.Index
