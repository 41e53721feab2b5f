import Std.Data.TreeMap.Lemmas
import Mathlib.Data.List.Count
import Mathlib.Data.List.Forall2
import Mathlib.Data.List.Induction
import PagedSearch.Proofs.Ranking.Matches

/-! # Index statistics -/

namespace PagedSearch

namespace TermTable

@[simp] theorem count_empty (t : FieldTerm) : empty.count t = 0 := by
  simp [empty, count]

private theorem count_increment (table : TermTable) (t u : FieldTerm) :
    (table.increment t).count u = table.count u + if u = t then 1 else 0 := by
  obtain ⟨field, text⟩ := t
  obtain ⟨otherField, otherText⟩ := u
  by_cases hfield : field = otherField
  · subst hfield
    by_cases htext : text = otherText
    · subst htext
      simp [increment, count]
    · simp [increment, count, Std.TreeMap.getD_insert, htext, Ne.symm htext]
  · simp [increment, count, Std.TreeMap.getD_insert, hfield, Ne.symm hfield]

end TermTable

namespace Document

def terms (analyzer : Analyzer) (d : Document) (name : String) : List String :=
  (d.values name).flatMap fun value => analyzer.terms value.display

/-- Some value stored under the field of a term has the term among its tokens. -/
def Contains (analyzer : Analyzer) (d : Document) (t : FieldTerm) : Prop :=
  ∃ value ∈ d.values t.field, t.text ∈ analyzer.terms value.display

instance (analyzer : Analyzer) (d : Document) (t : FieldTerm) : Decidable (d.Contains analyzer t) :=
  inferInstanceAs (Decidable (∃ value ∈ d.values t.field, _))

def tokens (analyzer : Analyzer) (d : Document) : List FieldTerm :=
  d.fields.flatMap fun field => (analyzer.terms field.value.display).map (⟨field.name, ·⟩)

variable {analyzer : Analyzer}

private theorem mem_tokens {d : Document} {t : FieldTerm} :
    t ∈ d.tokens analyzer ↔ d.Contains analyzer t := by
  obtain ⟨name, text⟩ := t
  simp only [tokens, Contains, values, List.mem_flatMap, List.mem_map, List.mem_filter,
    FieldTerm.mk.injEq, beq_iff_eq]
  constructor
  · rintro ⟨field, hfield, word, hword, rfl, rfl⟩
    exact ⟨field.value, ⟨field, ⟨hfield, rfl⟩, rfl⟩, hword⟩
  · rintro ⟨_, ⟨field, ⟨hfield, rfl⟩, rfl⟩, hword⟩
    exact ⟨field, hfield, text, hword, rfl, rfl⟩

theorem terms_singleton (analyzer : Analyzer) (field : StoredField) (name : String) :
    terms analyzer ⟨[field]⟩ name =
      if field.name = name then analyzer.terms field.value.display else [] := by
  by_cases hname : field.name = name <;> simp [terms, values, hname]

theorem terms_append (earlier later : List StoredField) (name : String) :
    terms analyzer ⟨earlier ++ later⟩ name =
      terms analyzer ⟨earlier⟩ name ++ terms analyzer ⟨later⟩ name := by
  simp [terms, values]

private theorem has_append (earlier later : List StoredField) (name : String) :
    has ⟨earlier ++ later⟩ name = (has ⟨earlier⟩ name || has ⟨later⟩ name) := by
  simp [has]

end Document

namespace Index

variable {analyzer : Analyzer} {index : Index}

def total (index : Index) (name : String) : FieldTotal := index.totals.getD name ⟨0, 0⟩

/-- The second state has counted the given tokens beyond those of the first. A token that the
document already has does not make the document count again. -/
structure CountsTokens (tokens : List FieldTerm) (before after : Index × IndexEntry) : Prop where
  frequency : ∀ t,
    after.2.frequencies.count t = before.2.frequencies.count t + tokens.count t
  documents : ∀ t, after.1.documentFrequency t = before.1.documentFrequency t +
    if before.2.frequencies.count t = 0 ∧ t ∈ tokens then 1 else 0

namespace CountsTokens

private theorem refl (state : Index × IndexEntry) : CountsTokens [] state state :=
  ⟨by simp, by simp⟩

private theorem trans {first second : List FieldTerm} {before middle after : Index × IndexEntry}
    (h : CountsTokens first before middle) (h' : CountsTokens second middle after) :
    CountsTokens (first ++ second) before after := by
  constructor
  · intro t
    rw [h'.frequency, h.frequency, List.count_append, Nat.add_assoc]
  · intro t
    have hzero : middle.2.frequencies.count t = 0 ↔
        before.2.frequencies.count t = 0 ∧ t ∉ first := by
      rw [h.frequency, Nat.add_eq_zero_iff, List.count_eq_zero]
    rw [h'.documents, h.documents]
    by_cases hfirst : t ∈ first <;> simp [hzero, hfirst]

end CountsTokens

private theorem countsTokens_countToken (name text : String) (state : Index × IndexEntry) :
    CountsTokens [⟨name, text⟩] state (countToken name state text) := by
  obtain ⟨index, entry⟩ := state
  constructor
  · intro t
    simp [countToken, TermTable.count_increment, List.count_singleton, eq_comm (a := t)]
  · intro t
    by_cases hzero : entry.frequencies.count ⟨name, text⟩ = 0
    · by_cases ht : t = ⟨name, text⟩ <;>
        simp [countToken, documentFrequency, TermTable.count_increment, hzero, ht]
    · have hnew : ¬ (entry.frequencies.count t = 0 ∧ t = ⟨name, text⟩) := by
        rintro ⟨ht, rfl⟩
        exact hzero ht
      simp [countToken, documentFrequency, hzero, hnew]

private theorem countsTokens_foldl (name : String) (texts : List String)
    (state : Index × IndexEntry) :
    CountsTokens (texts.map (⟨name, ·⟩)) state (texts.foldl (countToken name) state) := by
  induction texts generalizing state with
  | nil => exact .refl state
  | cons text rest ih => exact (countsTokens_countToken name text state).trans (ih _)

private theorem frame_foldl_countToken (name : String) (texts : List String)
    (state : Index × IndexEntry) :
    let after := texts.foldl (countToken name) state
    after.1.entries = state.1.entries ∧ after.1.totals = state.1.totals ∧
      after.2.stored = state.2.stored ∧ after.2.lengths = state.2.lengths := by
  induction texts generalizing state with
  | nil => exact ⟨rfl, rfl, rfl, rfl⟩
  | cons text rest ih => exact ih _

structure MeasuresFields (analyzer : Analyzer) (fields : List StoredField)
    (before after : Index × IndexEntry) : Prop where
  stores : ∀ name,
    name ∈ after.2.lengths ↔ name ∈ before.2.lengths ∨ Document.has ⟨fields⟩ name = true
  length : ∀ name, after.2.lengths.getD name 0 =
    before.2.lengths.getD name 0 + (Document.terms analyzer ⟨fields⟩ name).length
  listed : ∀ name,
    name ∈ after.1.totals ↔ name ∈ before.1.totals ∨ Document.has ⟨fields⟩ name = true
  documents : ∀ name, (after.1.total name).documents = (before.1.total name).documents +
    if name ∉ before.2.lengths ∧ Document.has ⟨fields⟩ name = true then 1 else 0
  tokens : ∀ name, (after.1.total name).tokens =
    (before.1.total name).tokens + (Document.terms analyzer ⟨fields⟩ name).length

namespace MeasuresFields

private theorem refl (state : Index × IndexEntry) : MeasuresFields analyzer [] state state := by
  constructor <;> simp [Document.has, Document.terms, Document.values]

private theorem trans {first second : List StoredField} {before middle after : Index × IndexEntry}
    (h : MeasuresFields analyzer first before middle)
    (h' : MeasuresFields analyzer second middle after) :
    MeasuresFields analyzer (first ++ second) before after := by
  constructor <;> intro name
  · rw [h'.stores, h.stores, Document.has_append, Bool.or_eq_true, or_assoc]
  · rw [h'.length, h.length, Document.terms_append, List.length_append, Nat.add_assoc]
  · rw [h'.listed, h.listed, Document.has_append, Bool.or_eq_true, or_assoc]
  · rw [h'.documents, h.documents, Document.has_append]
    by_cases hfirst : Document.has ⟨first⟩ name = true <;> simp [h.stores, hfirst]
  · rw [h'.tokens, h.tokens, Document.terms_append, List.length_append, Nat.add_assoc]

end MeasuresFields

private theorem measuresFields_countLength (analyzer : Analyzer) (field : StoredField)
    (state : Index × IndexEntry) :
    MeasuresFields analyzer [field] state
      (countLength field.name (analyzer.terms field.value.display).length state) := by
  obtain ⟨index, entry⟩ := state
  have hhas (name : String) : Document.has ⟨[field]⟩ name = true ↔ field.name = name := by
    simp [Document.has]
  constructor <;> intro name
  · rw [hhas]
    simp [countLength, Std.TreeMap.mem_insert, or_comm]
  · rw [Document.terms_singleton]
    by_cases hname : field.name = name <;> simp [countLength, Std.TreeMap.getD_insert, hname]
  · rw [hhas]
    simp [countLength, Std.TreeMap.mem_insert, or_comm]
  · simp only [hhas]
    by_cases hname : field.name = name
    · subst hname
      by_cases hstored : field.name ∈ entry.lengths <;> simp [countLength, total, hstored]
    · simp [countLength, total, Std.TreeMap.getD_insert, hname]
  · rw [Document.terms_singleton]
    by_cases hname : field.name = name <;>
      simp [countLength, total, Std.TreeMap.getD_insert, hname]

structure CountsFields (analyzer : Analyzer) (fields : List StoredField)
    (before after : Index × IndexEntry) : Prop where
  counts : CountsTokens (Document.tokens analyzer ⟨fields⟩) before after
  measures : MeasuresFields analyzer fields before after
  entries : after.1.entries = before.1.entries
  stored : after.2.stored = before.2.stored

private theorem countsFields_countField (analyzer : Analyzer) (field : StoredField)
    (state : Index × IndexEntry) :
    CountsFields analyzer [field] state (countField analyzer state field) := by
  let terms := analyzer.terms field.value.display
  let counted := terms.foldl (countToken field.name) state
  obtain ⟨hentries, htotals, hstored, hlengths⟩ := frame_foldl_countToken field.name terms state
  have htotal (name : String) : counted.1.total name = state.1.total name := by
    rw [total, total, htotals]
  have hcounts : CountsTokens (Document.tokens analyzer ⟨[field]⟩) state counted := by
    have htokens : Document.tokens analyzer ⟨[field]⟩ = terms.map (⟨field.name, ·⟩) := by
      simp [Document.tokens, terms]
    rw [htokens]
    exact countsTokens_foldl field.name terms state
  have hmeasures := measuresFields_countLength analyzer field counted
  refine ⟨⟨hcounts.frequency, hcounts.documents⟩, ?_, hentries, hstored⟩
  constructor
  · exact hlengths ▸ hmeasures.stores
  · exact hlengths ▸ hmeasures.length
  · exact htotals ▸ hmeasures.listed
  · intro name
    rw [← htotal name, ← hlengths]
    exact hmeasures.documents name
  · intro name
    rw [← htotal name]
    exact hmeasures.tokens name

private theorem countsFields_foldl (analyzer : Analyzer) (fields : List StoredField)
    (state : Index × IndexEntry) :
    CountsFields analyzer fields state (fields.foldl (countField analyzer) state) := by
  induction fields generalizing state with
  | nil => exact ⟨.refl state, .refl state, rfl, rfl⟩
  | cons field rest ih =>
    have hfirst := countsFields_countField analyzer field state
    have hrest := ih (countField analyzer state field)
    have htokens : Document.tokens analyzer ⟨field :: rest⟩ =
        Document.tokens analyzer ⟨[field]⟩ ++ Document.tokens analyzer ⟨rest⟩ := by
      simp [Document.tokens]
    constructor
    · rw [htokens]
      exact hfirst.counts.trans hrest.counts
    · exact hfirst.measures.trans hrest.measures
    · exact hrest.entries.trans hfirst.entries
    · exact hrest.stored.trans hfirst.stored

end Index

theorem Query.isSome_score_term_iff {doc : TermCounts} {stats : Statistics} (t : FieldTerm)
    (boost : Binary32) :
    ((Query.term t boost).score doc stats).isSome = true ↔ doc.frequency t ≠ 0 := by
  by_cases hzero : doc.frequency t = 0 <;> simp [Query.score, hzero]

structure IndexEntry.Describes (analyzer : Analyzer) (entry : IndexEntry) (d : Document) :
    Prop where
  stored : entry.stored = d
  frequency : ∀ t, entry.counts.frequency t = (d.tokens analyzer).count t
  length : ∀ name, entry.counts.length name = (d.terms analyzer name).length

theorem IndexEntry.Describes.frequency_ne_zero_iff {analyzer : Analyzer} {entry : IndexEntry}
    {d : Document} (h : entry.Describes analyzer d) (t : FieldTerm) :
    entry.counts.frequency t ≠ 0 ↔ d.Contains analyzer t := by
  rw [h.frequency, Ne, List.count_eq_zero, not_not, Document.mem_tokens]

namespace Index

variable {analyzer : Analyzer} {index : Index} {documents : List Document}

structure AddsEntry (analyzer : Analyzer) (d : Document) (entry : IndexEntry)
    (before after : Index) : Prop where
  entries : after.entries = before.entries.push entry
  describes : entry.Describes analyzer d
  stores : ∀ name, name ∈ entry.lengths ↔ d.has name = true
  containing : ∀ t, after.documentFrequency t = before.documentFrequency t +
    if d.Contains analyzer t then 1 else 0
  listed : ∀ name, name ∈ after.totals ↔ name ∈ before.totals ∨ d.has name = true
  storing : ∀ name, (after.total name).documents = (before.total name).documents +
    if d.has name = true then 1 else 0
  tokens : ∀ name, (after.total name).tokens =
    (before.total name).tokens + (d.terms analyzer name).length

theorem exists_addsEntry (analyzer : Analyzer) (index : Index) (d : Document) :
    ∃ entry, AddsEntry analyzer d entry index (index.add analyzer d) := by
  obtain ⟨fields⟩ := d
  obtain ⟨hcounts, hmeasures, hentries, hstored⟩ :=
    countsFields_foldl analyzer fields (index, ⟨⟨fields⟩, .empty, ∅⟩)
  rcases hrun : fields.foldl (countField analyzer) (index, ⟨⟨fields⟩, .empty, ∅⟩) with
    ⟨counted, entry⟩
  rw [hrun] at hcounts hmeasures hentries hstored
  have hadd : index.add analyzer ⟨fields⟩ =
      { counted with entries := counted.entries.push entry } := by
    rw [Index.add, hrun]
  refine ⟨entry, ?_⟩
  rw [hadd]
  constructor
  case describes =>
    constructor
    · exact hstored
    · intro t
      simpa [IndexEntry.counts] using hcounts.frequency t
    · intro name
      simpa [IndexEntry.counts] using hmeasures.length name
  case containing =>
    intro t
    simpa [documentFrequency, Document.mem_tokens] using hcounts.documents t
  · exact congrArg (·.push entry) hentries
  · simpa using hmeasures.stores
  · exact hmeasures.listed
  · simpa [total] using hmeasures.documents
  · exact hmeasures.tokens

/-- The tables of an index tell what counting over the documents in it tells. -/
structure Summarizes (analyzer : Analyzer) (index : Index) (documents : List Document) :
    Prop where
  entries : List.Forall₂ (IndexEntry.Describes analyzer) index.entries.toList documents
  containing : ∀ t, index.documentFrequency t = documents.countP (·.Contains analyzer t)
  listed : ∀ name, name ∈ index.totals ↔ ∃ d ∈ documents, d.has name = true
  storing : ∀ name, (index.total name).documents = documents.countP (·.has name)
  tokens : ∀ name,
    (index.total name).tokens = (documents.flatMap (·.terms analyzer name)).length

private theorem summarizes_empty (analyzer : Analyzer) : Summarizes analyzer empty [] := by
  constructor <;> simp [empty, documentFrequency, total]

private theorem Summarizes.add (h : Summarizes analyzer index documents) (d : Document) :
    Summarizes analyzer (index.add analyzer d) (documents ++ [d]) := by
  obtain ⟨entry, hadds⟩ := exists_addsEntry analyzer index d
  constructor
  · rw [hadds.entries, Array.toList_push]
    exact List.rel_append h.entries (.cons hadds.describes .nil)
  · intro t
    simp [hadds.containing, h.containing, List.countP_append, List.countP_singleton]
  · intro name
    simp [hadds.listed, h.listed, or_and_right, exists_or]
  · intro name
    simp [hadds.storing, h.storing, List.countP_append, List.countP_singleton]
  · intro name
    simp [hadds.tokens, h.tokens]

theorem summarizes_ofDocuments (analyzer : Analyzer) (documents : List Document) :
    Summarizes analyzer (ofDocuments analyzer documents) documents := by
  induction documents using List.reverseRecOn with
  | nil => exact summarizes_empty analyzer
  | append_singleton earlier d ih =>
    rw [ofDocuments, List.foldl_append]
    exact ih.add d

theorem length_hits (index : Index) (query : Query) : (index.hits query).length =
    index.entries.toList.countP fun entry =>
      (query.score entry.counts index.statistics).isSome := by
  have hcount := List.countP_map (p := fun entry : IndexEntry =>
    (query.score entry.counts index.statistics).isSome) (f := Prod.fst)
    (l := index.entries.toList.zipIdx)
  rw [List.zipIdx_map_fst] at hcount
  rw [hits, List.length_filterMap_eq_countP, hcount]
  simp [Function.comp_def]

private theorem Summarizes.length_hits_term (h : Summarizes analyzer index documents)
    (t : FieldTerm) (boost : Binary32) :
    (index.hits (.term t boost)).length = index.documentFrequency t := by
  rw [length_hits, h.containing]
  have hentries := h.entries
  clear h
  generalize index.entries.toList = entries at hentries
  induction hentries with
  | nil => rfl
  | @cons entry d entries documents hentry _ ih =>
    have hmatch : ((Query.term t boost).score entry.counts index.statistics).isSome =
        decide (d.Contains analyzer t) := by
      rw [Bool.eq_iff_iff, Query.isSome_score_term_iff, hentry.frequency_ne_zero_iff,
        decide_eq_true_iff]
    rw [List.countP_cons, List.countP_cons, ih, hmatch]

theorem Summarizes.getElem?_entries (h : Summarizes analyzer index documents) (id : Nat) :
    Option.Rel (IndexEntry.Describes analyzer) index.entries[id]? documents[id]? := by
  rw [← Array.getElem?_toList]
  have hentries := h.entries
  clear h
  generalize index.entries.toList = entries at hentries
  induction hentries generalizing id with
  | nil => exact .none
  | cons hentry _ ih =>
    cases id with
    | zero => exact .some hentry
    | succ id => exact ih id

theorem Summarizes.document?_eq (h : Summarizes analyzer index documents) (id : Nat) :
    index.document? id = documents[id]? := by
  have hid := h.getElem?_entries id
  rw [document?]
  generalize index.entries[id]? = entry, documents[id]? = d at hid
  cases hid with
  | none => rfl
  | some hentry => rw [Option.map_some, hentry.stored]

private theorem Summarizes.averageLength_eq (h : Summarizes analyzer index documents)
    (name : String) :
    index.averageLength name =
      if documents.countP (·.has name) = 0 then 0
      else .ofNat (documents.flatMap (·.terms analyzer name)).length /
        .ofNat (documents.countP (·.has name)) := by
  rw [← h.storing, ← h.tokens, total, Std.TreeMap.getD_eq_getD_getElem?, averageLength]
  rcases index.totals[name]? with - | total <;> rfl

/-- Documents get the numbers from zero on as ids and are kept as they were added. The frequency of
a term counts the documents that contain it, which are the hits of its query. The average length of
a field is taken over the documents that store it, and the field names are those that are stored. -/
theorem statistics_ofDocuments (analyzer : Analyzer) (documents : List Document) :
    let index := ofDocuments analyzer documents
    index.size = documents.length ∧
    (∀ id, index.document? id = documents[id]?) ∧
    (∀ earlier d later, (ofDocuments analyzer (earlier ++ d :: later)).document?
      (ofDocuments analyzer earlier).size = some d) ∧
    (∀ t, index.documentFrequency t = documents.countP (·.Contains analyzer t) ∧
      (∀ boost, (index.hits (.term t boost)).length = index.documentFrequency t) ∧
      index.documentFrequency t ≤ index.size) ∧
    (∀ name, index.averageLength name =
      if documents.countP (·.has name) = 0 then 0
      else .ofNat (documents.flatMap (·.terms analyzer name)).length /
        .ofNat (documents.countP (·.has name))) ∧
    ∀ name, name ∈ index.fieldNames ↔ ∃ d ∈ documents, d.has name = true := by
  have hsummary := summarizes_ofDocuments analyzer
  have hsize (documents : List Document) :
      (ofDocuments analyzer documents).size = documents.length := by
    simpa [size] using (hsummary documents).entries.length_eq
  refine ⟨hsize documents, (hsummary documents).document?_eq, ?_, ?_,
    (hsummary documents).averageLength_eq, ?_⟩
  · intro earlier d later
    rw [hsize, (hsummary _).document?_eq]
    simp
  · intro t
    refine ⟨(hsummary documents).containing t, (hsummary documents).length_hits_term t, ?_⟩
    rw [hsize, (hsummary documents).containing]
    exact List.countP_le_length
  · intro name
    rw [fieldNames, Std.TreeMap.mem_keys, (hsummary documents).listed]

end Index

end PagedSearch
