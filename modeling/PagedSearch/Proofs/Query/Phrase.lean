import PagedSearch.Proofs.Index.Statistics
import PagedSearch.Proofs.Query.Found
import PagedSearch.Proofs.Text.Split

/-! # Phrases -/

namespace PagedSearch

namespace Query

section Score

variable {doc : TermCounts} {stats : Statistics} {analyzer : Analyzer} {fields : List String}
  {name text : String} {query : Query}

private theorem isSome_score_required (queries : List Query) (boost : Binary32) :
    ((bool (queries.map (.required, ·)) boost).score doc stats).isSome = true ↔
      queries ≠ [] ∧ ∀ q ∈ queries, (q.score doc stats).isSome = true := by
  rw [isSome_score_bool_iff]
  cases queries with
  | nil => simp
  | cons first rest => simp +contextual [Admits, Carries]

private theorem isSome_score_optional (queries : List Query) (boost : Binary32) :
    ((bool (queries.map (.optional, ·)) boost).score doc stats).isSome = true ↔
      ∃ q ∈ queries, (q.score doc stats).isSome = true := by
  rw [isSome_score_bool_iff]
  simp [Admits, Carries]

private theorem isSome_score_queryOfTerms {texts : List String}
    (h : queryOfTerms? name texts = some query) :
    (query.score doc stats).isSome = true ↔ ∀ text ∈ texts, doc.frequency ⟨name, text⟩ ≠ 0 := by
  rcases texts with - | ⟨first, - | ⟨second, rest⟩⟩
  · cases h
  · cases h
    simp [isSome_score_term_iff]
  · have hall := @isSome_score_required doc stats
      ((first :: second :: rest).map fun text => term ⟨name, text⟩ 1) 1
    rw [List.map_map] at hall
    cases h
    refine hall.trans ?_
    simp [isSome_score_term_iff]

private theorem exists_queryOfTerms {texts : List String} (h : texts ≠ []) (name : String) :
    ∃ query, queryOfTerms? name texts = some query := by
  rcases texts with - | ⟨first, - | ⟨second, rest⟩⟩
  · exact absurd rfl h
  · exact ⟨_, rfl⟩
  · exact ⟨_, rfl⟩

theorem isSome_score_ofText (h : ofText analyzer fields text = .ok query) :
    (query.score doc stats).isSome = true ↔ analyzer.terms text ≠ [] ∧
      ∃ name ∈ fields, ∀ word ∈ analyzer.terms text, doc.frequency ⟨name, word⟩ ≠ 0 := by
  have hany : (query.score doc stats).isSome = true ↔
      ∃ q ∈ fields.filterMap (queryOfTerms? · (analyzer.terms text)),
        (q.score doc stats).isSome = true := by
    rw [ofText] at h
    split at h
    · cases h
    · split at h
      · rename_i single hsingle
        cases h
        simp [hsingle]
      · cases h
        exact isSome_score_optional _ 1
  rw [hany]
  constructor
  · rintro ⟨q, hq, hscore⟩
    obtain ⟨name, hname, hquery⟩ := List.mem_filterMap.mp hq
    refine ⟨?_, name, hname, (isSome_score_queryOfTerms hquery).mp hscore⟩
    intro hnil
    rw [hnil] at hquery
    cases hquery
  · rintro ⟨hterms, name, hname, hall⟩
    obtain ⟨q, hquery⟩ := exists_queryOfTerms hterms name
    exact ⟨q, List.mem_filterMap.mpr ⟨name, hname, hquery⟩,
      (isSome_score_queryOfTerms hquery).mpr hall⟩

theorem exists_ofText (h : fields ≠ []) (analyzer : Analyzer) (text : String) :
    ∃ query, ofText analyzer fields text = .ok query := by
  rw [ofText, if_neg (by simpa using h)]
  split
  · exact ⟨_, rfl⟩
  · exact ⟨_, rfl⟩

end Score

section Quoted

variable {scope : QueryScope} {name text : String} {query : Query}

/-- The names that can stand before a colon in a query text. -/
structure IsFieldName (name : String) : Prop where
  nonempty : name ≠ ""
  spaceless : ∀ c ∈ name.toList, Unicode.isSpace c = false
  plain : ∀ c ∈ name.toList, c ∉ ['(', ')', '"', '^', ':']
  unsigned : name.toList.head? ≠ some '+' ∧ name.toList.head? ≠ some '-'

instance (name : String) : Decidable (IsFieldName name) :=
  decidable_of_iff (name ≠ "" ∧ (∀ c ∈ name.toList, Unicode.isSpace c = false) ∧
      (∀ c ∈ name.toList, c ∉ ['(', ')', '"', '^', ':']) ∧
      name.toList.head? ≠ some '+' ∧ name.toList.head? ≠ some '-')
    ⟨fun ⟨nonempty, spaceless, plain, unsigned⟩ => ⟨nonempty, spaceless, plain, unsigned⟩,
      fun h => ⟨h.nonempty, h.spaceless, h.plain, h.unsigned⟩⟩

namespace IsFieldName

private theorem bare (h : IsFieldName name) {c : Char} (hc : c ∈ name.toList) :
    isBareChar c = true := by
  have hplain := h.plain c hc
  simp only [List.mem_cons, List.not_mem_nil, or_false, not_or] at hplain
  simp [isBareChar, h.spaceless c hc, hplain]

private theorem colon_not_mem (h : IsFieldName name) : ':' ∉ name.toList :=
  fun hc => h.plain ':' hc (by simp)

theorem exists_cons (h : IsFieldName name) : ∃ c tail, name.toList = c :: tail :=
  List.exists_cons_of_ne_nil fun hnil => h.nonempty (String.toList_eq_nil_iff.mp hnil)

end IsFieldName

theorem splitPhrase_quoted (h : '"' ∉ text.toList) (rest : List Char) :
    splitPhrase (text.toList ++ '"' :: rest) = .ok (text, rest) := by
  rw [splitPhrase, dropWhile_ne_append h, takeWhile_ne_append h, String.ofList_toList]

private theorem splitField?_name (h : IsFieldName name) (rest : List Char) :
    splitField? (name.toList ++ ':' :: rest) = some (name.toList, rest) := by
  have hhead : (name.toList ++ ':' :: rest).head? ≠ some ':' := by
    obtain ⟨c, tail, hcons⟩ := h.exists_cons
    have hcolon := h.colon_not_mem
    simp only [hcons, List.mem_cons, not_or] at hcolon
    simpa [hcons] using Ne.symm hcolon.1
  rw [splitField?, dropWhile_ne_append h.colon_not_mem, takeWhile_ne_append h.colon_not_mem]
  exact if_neg hhead

theorem parse_of_primary {c : Char} {tail : List Char} (htext : text.toList = c :: tail)
    (hspace : Unicode.isSpace c = false) (hinside : c ≠ ')')
    (hword : Connective.ofWord? ((c :: tail).takeWhile isBareChar) = none)
    (hrole : splitPrefix (c :: tail) = (.optional, c :: tail))
    (hread : Reads scope (.primary query) (c :: tail) []) : parse scope text = .ok query := by
  rw [parse_eq_ok_iff, htext]
  have hopen : Unicode.trimStart (c :: tail) = c :: tail := by
    simp [Unicode.trimStart, hspace]
  have hclause : Reads scope (.clause (.optional, query)) (c :: tail) [] :=
    .clause_of_splitPrefix hrole hread rfl
  exact .next hopen hinside hword hclause (.finish rfl rfl)

theorem parse_quoted (hquote : '"' ∉ text.toList)
    (hquery : ofText scope.analyzer scope.fields text = .ok query) :
    parse scope ("\"" ++ text ++ "\"") = .ok query := by
  have htext : ("\"" ++ text ++ "\"").toList = '"' :: (text.toList ++ ['"']) := by simp
  have hread : Reads scope (.primary query) ('"' :: (text.toList ++ ['"'])) [] :=
    .phrase (splitPhrase_quoted hquote []) hquery
  exact parse_of_primary htext (by decide) (by decide) rfl rfl hread

private theorem word_of_mem_colon {word : List Char} (h : ':' ∈ word) :
    Connective.ofWord? word = none ∧ word ≠ ['N', 'O', 'T'] := by
  have hne (operator : List Char) (hoperator : ':' ∉ operator) : word ≠ operator :=
    fun heq => hoperator (heq ▸ h)
  refine ⟨?_, hne _ (by decide)⟩
  rw [Connective.ofWord?, if_neg (hne _ (by decide)), if_neg (hne _ (by decide))]

section Field

variable (h : IsFieldName name) {stop : Char} (hstop : isBareChar stop = false) (rest : List Char)

include h

private theorem IsFieldName.bare_of_mem_word {c : Char} (hc : c ∈ name.toList ++ [':']) :
    isBareChar c = true := by
  rcases List.mem_append.mp hc with hc | hc
  · exact h.bare hc
  · rw [List.mem_singleton.mp hc]
    decide

include hstop

theorem IsFieldName.takeWhile_word :
    (name.toList ++ ':' :: stop :: rest).takeWhile isBareChar = name.toList ++ [':'] := by
  have hword := List.takeWhile_eq_self_iff.mpr fun _ hc => h.bare_of_mem_word hc
  rw [List.append_cons, takeWhile_append_stop hstop, hword]

private theorem IsFieldName.dropWhile_word :
    (name.toList ++ ':' :: stop :: rest).dropWhile isBareChar = stop :: rest := by
  have hword := List.dropWhile_eq_nil_iff.mpr fun _ hc => h.bare_of_mem_word hc
  rw [List.append_cons, dropWhile_append_stop hstop, hword, List.nil_append]

theorem IsFieldName.exists_word : ∃ c tail,
    name.toList ++ ':' :: stop :: rest = c :: tail ∧ isBareChar c = true ∧
      splitField? (c :: tail.takeWhile isBareChar) = some (name.toList, []) ∧
      tail.dropWhile isBareChar = stop :: rest := by
  have htake := h.takeWhile_word hstop rest
  have hdrop := h.dropWhile_word hstop rest
  obtain ⟨c, tail, hcons⟩ := h.exists_cons
  have hbare := h.bare (c := c) (by simp [hcons])
  rw [hcons, List.cons_append, List.takeWhile_cons_of_pos hbare] at htake
  rw [hcons, List.cons_append, List.dropWhile_cons_of_pos hbare] at hdrop
  have hqualified := splitField?_name h []
  rw [hcons, ← htake] at hqualified
  rw [hcons]
  exact ⟨c, _, rfl, hbare, hqualified, hdrop⟩

theorem IsFieldName.parse_of_primary (htext : text.toList = name.toList ++ ':' :: stop :: rest)
    (hread : Reads scope (.primary query) (name.toList ++ ':' :: stop :: rest) []) :
    parse scope text = .ok query := by
  have hcolon : ':' ∈ (name.toList ++ ':' :: stop :: rest).takeWhile isBareChar := by
    rw [h.takeWhile_word hstop]
    simp
  obtain ⟨hconnective, hnot⟩ := word_of_mem_colon hcolon
  obtain ⟨c, tail, hcons⟩ := h.exists_cons
  have hc : c ∈ name.toList := by simp [hcons]
  have hinside : c ≠ ')' := fun heq => h.plain c hc (by simp [heq])
  have hunsigned := h.unsigned
  rw [hcons] at hunsigned
  rw [hcons, List.cons_append] at htext hread hconnective hnot
  have hrole : splitPrefix (c :: (tail ++ ':' :: stop :: rest)) =
      (.optional, c :: (tail ++ ':' :: stop :: rest)) := by
    rw [splitPrefix_of_unsigned (by exact hunsigned.1) (by exact hunsigned.2), if_neg hnot]
  exact Query.parse_of_primary htext (h.spaceless c hc) hinside hconnective hrole hread

end Field

private theorem parse_fieldQuoted (hname : IsFieldName name) (hquote : '"' ∉ text.toList)
    (hquery : ofText scope.analyzer [name] text = .ok query) :
    parse scope (name ++ ":\"" ++ text ++ "\"") = .ok query := by
  have hstop : isBareChar '"' = false := by decide
  have htext : (name ++ ":\"" ++ text ++ "\"").toList =
      name.toList ++ ':' :: '"' :: (text.toList ++ ['"']) := by simp
  refine hname.parse_of_primary hstop _ htext ?_
  obtain ⟨c, tail, hcons, hbare, hqualified, hdrop⟩ := hname.exists_word hstop (text.toList ++ ['"'])
  rw [hcons]
  refine .fieldPhrase hbare hqualified hdrop (splitPhrase_quoted hquote []) ?_
  rwa [String.ofList_toList]

end Quoted

end Query

/-- The values stored under one of the given names have every token of a text among their tokens,
and the text has tokens at all. -/
def Document.ContainsText (analyzer : Analyzer) (d : Document) (fields : List String)
    (text : String) : Prop :=
  analyzer.terms text ≠ [] ∧
    ∃ name ∈ fields, ∀ word ∈ analyzer.terms text, d.Contains analyzer ⟨name, word⟩

private theorem Document.containsText_value {analyzer : Analyzer} {d : Document}
    {field : StoredField} {fields : List String} (hfield : field ∈ d.fields)
    (hname : field.name ∈ fields)
    (hterms : analyzer.terms field.value.display ≠ []) :
    d.ContainsText analyzer fields field.value.display := by
  refine ⟨hterms, field.name, hname, fun word hword => ⟨field.value, ?_, hword⟩⟩
  exact List.mem_map_of_mem (List.mem_filter.mpr ⟨hfield, beq_self_eq_true _⟩)

namespace Index

variable {analyzer : Analyzer} {index : Index} {documents : List Document}

/-- The documents that the query for a text finds are those that contain the text. -/
theorem Summarizes.mem_found_ofText (h : Summarizes analyzer index documents)
    {fields : List String} {text : String} {query : Query}
    (hquery : Query.ofText analyzer fields text = .ok query) (id : Nat) :
    id ∈ index.found query ↔
      ∃ d, documents[id]? = some d ∧ d.ContainsText analyzer fields text := by
  have hid := h.getElem?_entries id
  rw [mem_found]
  generalize index.entries[id]? = place, documents[id]? = stored at hid
  cases hid with
  | none => simp
  | some hentry =>
    simp only [Option.some.injEq, exists_eq_left', Query.isSome_score_ofText hquery,
      hentry.frequency_ne_zero_iff, Document.ContainsText]

end Index

namespace Query

/-- A phrase finds the documents that contain its text in one of the default fields, and behind a
field name those that contain it in that field. A document is found by the text of any value of its
own that has tokens and no quote. -/
theorem found_quoted (analyzer : Analyzer) (documents : List Document) {fields : List String}
    (hfields : fields ≠ []) {text : String} (hquote : '"' ∉ text.toList) :
    let index := Index.ofDocuments analyzer documents
    let quoted := "\"" ++ text ++ "\""
    (∃ query, parse ⟨analyzer, fields⟩ quoted = .ok query ∧ ∀ id,
      id ∈ index.found query ↔
        ∃ d, documents[id]? = some d ∧ d.ContainsText analyzer fields text) ∧
    (∀ name, IsFieldName name →
      ∃ query, parse ⟨analyzer, fields⟩ (name ++ ":" ++ quoted) = .ok query ∧ ∀ id,
        id ∈ index.found query ↔
          ∃ d, documents[id]? = some d ∧ d.ContainsText analyzer [name] text) ∧
    ∀ id d, documents[id]? = some d → ∀ field ∈ d.fields, field.value.display = text →
      analyzer.terms text ≠ [] →
      (field.name ∈ fields →
        ∃ query, parse ⟨analyzer, fields⟩ quoted = .ok query ∧ id ∈ index.found query) ∧
      (IsFieldName field.name → ∃ query,
        parse ⟨analyzer, fields⟩ (field.name ++ ":" ++ quoted) = .ok query ∧
          id ∈ index.found query) := by
  intro index quoted
  have hfound {names : List String} {query : Query}
      (hquery : ofText analyzer names text = .ok query) (id : Nat) :=
    (Index.summarizes_ofDocuments analyzer documents).mem_found_ofText hquery id
  obtain ⟨anywhere, hanywhere⟩ := exists_ofText hfields analyzer text
  have hparse : parse ⟨analyzer, fields⟩ quoted = .ok anywhere := parse_quoted hquote hanywhere
  have hparseIn {name : String} (hname : IsFieldName name) : ∃ query,
      ofText analyzer [name] text = .ok query ∧
        parse ⟨analyzer, fields⟩ (name ++ ":" ++ quoted) = .ok query := by
    obtain ⟨query, hquery⟩ := exists_ofText (List.cons_ne_nil name []) analyzer text
    have hspelling : name ++ ":" ++ quoted = name ++ ":\"" ++ text ++ "\"" :=
      String.toList_injective (by simp [quoted])
    exact ⟨query, hquery, hspelling ▸ parse_fieldQuoted hname hquote hquery⟩
  refine ⟨⟨anywhere, hparse, hfound hanywhere⟩, ?_, ?_⟩
  · intro name hname
    obtain ⟨query, hquery, hparseName⟩ := hparseIn hname
    exact ⟨query, hparseName, hfound hquery⟩
  · rintro id d hd field hfield rfl hterms
    constructor
    · intro hmem
      refine ⟨anywhere, hparse, (hfound hanywhere id).mpr ⟨d, hd, ?_⟩⟩
      exact Document.containsText_value hfield hmem hterms
    · intro hname
      obtain ⟨query, hquery, hparseName⟩ := hparseIn hname
      refine ⟨query, hparseName, (hfound hquery id).mpr ⟨d, hd, ?_⟩⟩
      exact Document.containsText_value hfield (List.mem_singleton_self _) hterms

def penNames : List Document :=
  [⟨[⟨"name", .text "ballpoint"⟩, ⟨"name", .text "Blue (fine) pen"⟩]⟩,
    ⟨[⟨"name", .text "red pen"⟩, ⟨"note", .integer 7⟩]⟩]

theorem found_quoted_pens :
    ["name", "note"] ≠ [] ∧ '"' ∉ "Blue (fine) pen".toList ∧
    (∃ query, parse ⟨.standard, ["name", "note"]⟩ "\"Blue (fine) pen\"" = .ok query ∧
      0 ∈ (Index.ofDocuments .standard penNames).found query) ∧
    ∃ query, parse ⟨.standard, ["name", "note"]⟩ "name:\"Blue (fine) pen\"" = .ok query ∧
      0 ∈ (Index.ofDocuments .standard penNames).found query := by
  have hfields : ["name", "note"] ≠ [] := by decide
  have hquote : '"' ∉ "Blue (fine) pen".toList := by decide
  have hspaceless : "name".toList.all (!Unicode.isSpace ·) = true := by decide
  have hname : IsFieldName "name" := by
    refine ⟨by decide, fun c hc => ?_, by simp, by decide⟩
    simpa using List.all_eq_true.mp hspaceless c hc
  have hterms : Analyzer.standard.terms "Blue (fine) pen" ≠ [] := by decide +kernel
  obtain ⟨-, -, hown⟩ := found_quoted .standard penNames hfields hquote
  obtain ⟨hanywhere, hin⟩ := hown 0
    ⟨[⟨"name", .text "ballpoint"⟩, ⟨"name", .text "Blue (fine) pen"⟩]⟩ rfl
    ⟨"name", .text "Blue (fine) pen"⟩ (by simp) rfl hterms
  exact ⟨hfields, hquote, hanywhere (by decide), hin hname⟩

end Query

end PagedSearch
