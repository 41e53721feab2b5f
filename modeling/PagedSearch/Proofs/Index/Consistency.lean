import Mathlib
import PagedSearch.Proofs.Index.Statistics

/-!
# Consistent statistics

Whatever documents are added to an index, and with whatever analyzers, its tables tell what counting
over its entries tells. So the statistics of a term that some document contains are in proportion.
-/

namespace PagedSearch

private theorem Document.count_tokens (analyzer : Analyzer) (d : Document) (t : FieldTerm) :
    (d.tokens analyzer).count t = (d.terms analyzer t.field).count t.text := by
  obtain ⟨name, text⟩ := t
  obtain ⟨fields⟩ := d
  induction fields with
  | nil => rfl
  | cons field rest ih =>
    have hfirst : ((analyzer.terms field.value.display).map (⟨field.name, ·⟩)).count
        (⟨name, text⟩ : FieldTerm) = (Document.terms analyzer ⟨[field]⟩ name).count text := by
      rw [terms_singleton]
      split
      · rename_i hname
        subst hname
        exact List.count_map_of_injective _ _ (fun _ _ h => (FieldTerm.mk.inj h).2) _
      · rename_i hname
        simp [List.count_eq_zero, hname]
    have hsplit : Document.terms analyzer ⟨field :: rest⟩ name =
        Document.terms analyzer ⟨[field]⟩ name ++ Document.terms analyzer ⟨rest⟩ name :=
      terms_append [field] rest name
    rw [hsplit, List.count_append, ← ih, ← hfirst]
    simp [tokens]

namespace IndexEntry

private theorem Describes.frequency_le_length {analyzer : Analyzer} {entry : IndexEntry}
    {d : Document} (h : entry.Describes analyzer d) (t : FieldTerm) :
    entry.counts.frequency t ≤ entry.counts.length t.field := by
  rw [h.frequency, h.length, Document.count_tokens]
  exact List.count_le_length

private theorem mem_lengths_of_length {entry : IndexEntry} {name : String}
    (h : entry.counts.length name ≠ 0) : name ∈ entry.lengths := by
  by_contra hname
  exact h (Std.TreeMap.getD_eq_fallback hname)

end IndexEntry

namespace Index

inductive Reachable : Index → Prop
  | empty : Reachable .empty
  | add {index : Index} (analyzer : Analyzer) (d : Document) (h : Reachable index) :
    Reachable (index.add analyzer d)

/-- The tables of an index tell what counting over its entries tells, and no entry has a term more
often than it has tokens in the field. -/
structure Consistent (index : Index) : Prop where
  containing : ∀ t, index.documentFrequency t =
    index.entries.toList.countP (·.counts.frequency t ≠ 0)
  storing : ∀ name, (index.total name).documents =
    index.entries.toList.countP (name ∈ ·.lengths)
  tokens : ∀ name, (index.total name).tokens =
    (index.entries.toList.map (·.counts.length name)).sum
  frequency_le : ∀ entry ∈ index.entries, ∀ t,
    entry.counts.frequency t ≤ entry.counts.length t.field

private theorem consistent_empty : Consistent empty := by
  constructor <;> simp [empty, documentFrequency, total]

private theorem Consistent.add {index : Index} (h : index.Consistent) (analyzer : Analyzer)
    (d : Document) : (index.add analyzer d).Consistent := by
  obtain ⟨entry, hadds⟩ := exists_addsEntry analyzer index d
  have hdescribes := hadds.describes
  constructor
  · intro t
    rw [hadds.containing, h.containing, hadds.entries, Array.toList_push, List.countP_append,
      List.countP_singleton]
    simp only [decide_eq_true_eq, hdescribes.frequency_ne_zero_iff]
  · intro name
    rw [hadds.storing, h.storing, hadds.entries, Array.toList_push, List.countP_append,
      List.countP_singleton]
    simp only [decide_eq_true_eq, hadds.stores]
  · intro name
    rw [hadds.tokens, h.tokens, hadds.entries, Array.toList_push, List.map_append, List.sum_append,
      List.map_singleton, List.sum_singleton, hdescribes.length]
  · intro other hother t
    rw [hadds.entries, Array.mem_push] at hother
    rcases hother with hother | rfl
    · exact h.frequency_le other hother t
    · exact hdescribes.frequency_le_length t

theorem Reachable.consistent {index : Index} (h : index.Reachable) : index.Consistent := by
  induction h with
  | empty => exact consistent_empty
  | add analyzer d _ ih => exact ih.add analyzer d

theorem reachable_ofDocuments (analyzer : Analyzer) (documents : List Document) :
    (ofDocuments analyzer documents).Reachable := by
  induction documents using List.reverseRecOn with
  | nil => exact .empty
  | append_singleton earlier d ih =>
    rw [ofDocuments, List.foldl_append]
    exact ih.add analyzer d

namespace Consistent

variable {index : Index} {entry : IndexEntry} {t : FieldTerm}

theorem documentFrequency_le_size (h : index.Consistent) (t : FieldTerm) :
    index.documentFrequency t ≤ index.size := by
  rw [h.containing, size, ← Array.length_toList]
  exact List.countP_le_length

section Contained

variable (h : index.Consistent) (hentry : entry ∈ index.entries)
  (ht : entry.counts.frequency t ≠ 0)

include h hentry ht

theorem documentFrequency_pos : 0 < index.documentFrequency t := by
  rw [h.containing]
  exact List.countP_pos_iff.mpr ⟨entry, hentry.val, decide_eq_true ht⟩

private theorem length_pos : 0 < entry.counts.length t.field :=
  (Nat.pos_of_ne_zero ht).trans_le (h.frequency_le entry hentry t)

theorem total_documents_pos : 0 < (index.total t.field).documents := by
  rw [h.storing]
  have hstored := IndexEntry.mem_lengths_of_length (h.length_pos hentry ht).ne'
  exact List.countP_pos_iff.mpr ⟨entry, hentry.val, decide_eq_true hstored⟩

theorem total_tokens_pos : 0 < (index.total t.field).tokens := by
  rw [h.tokens]
  have hmem := List.mem_map_of_mem (f := (·.counts.length t.field)) hentry.val
  exact (h.length_pos hentry ht).trans_le (List.le_sum_of_mem hmem)

end Contained

end Consistent

theorem averageLength_eq_of_total {index : Index} {name : String}
    (h : (index.total name).documents ≠ 0) : index.averageLength name =
      .ofNat (index.total name).tokens / .ofNat (index.total name).documents := by
  rw [total, Std.TreeMap.getD_eq_getD_getElem?] at h ⊢
  rw [averageLength]
  cases htotal : index.totals[name]? with
  | none => simp [htotal] at h
  | some total =>
    rw [htotal] at h
    exact if_neg h

end Index

end PagedSearch
