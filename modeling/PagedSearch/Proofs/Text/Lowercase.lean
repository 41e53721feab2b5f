import PagedSearch.Proofs.Query.Phrase
import PagedSearch.Proofs.Unicode.Case

/-!
# Words in lower case

The standard analyzer puts tokens in lower case if they have an uppercase letter. Titlecase letters
are none, so a token with such letters only is passed over. All other words with one lowercase form
are one term, in the index and in queries.
-/

namespace PagedSearch

open Unicode (isUppercase isTitlecase lowercaseString)

/-- A text with titlecase letters that has no uppercase letter. -/
def IsPassedOver (text : String) : Prop :=
  (∀ c ∈ text.toList, isUppercase c = false) ∧ ∃ c ∈ text.toList, isTitlecase c = true

instance (text : String) : Decidable (IsPassedOver text) :=
  inferInstanceAs (Decidable (_ ∧ _))

def IsWord (text : String) : Prop :=
  text ≠ "" ∧ ∀ c ∈ text.toList, Unicode.isWordChar c = true

instance (text : String) : Decidable (IsWord text) :=
  inferInstanceAs (Decidable (_ ∧ _))

def standardTerm (text : String) : String := (Token.ofText text 0).lowercase.text

theorem Token.lowercase_eq (t : Token) :
    t.lowercase = ⟨standardTerm t.text, t.position, t.start, t.stop⟩ := by
  unfold lowercase standardTerm lowercase ofText
  split <;> rfl

section Term

variable {text : String}

private theorem standardTerm_of_passedOver (h : IsPassedOver text) :
    standardTerm text = text ∧ lowercaseString text ≠ text := by
  obtain ⟨hupper, c, hc, htitle⟩ := h
  constructor
  · have hnone : text.toList.any isUppercase = false :=
      List.any_eq_false.mpr (by simpa using hupper)
    simp [standardTerm, Token.lowercase, Token.ofText, hnone]
  · intro hsame
    have hlower : Unicode.lowercase text.toList = text.toList := by
      simpa [lowercaseString] using congrArg String.toList hsame
    rw [Unicode.lowercase_eq_self_iff hupper] at hlower
    rw [hlower c hc] at htitle
    cases htitle

private theorem standardTerm_of_not_passedOver (h : ¬ IsPassedOver text) :
    standardTerm text = lowercaseString text := by
  cases hupper : text.toList.any isUppercase with
  | true => simp [standardTerm, Token.lowercase, Token.ofText, hupper]
  | false =>
    have hnone : ∀ c ∈ text.toList, isUppercase c = false := by simpa using hupper
    have htitle : ∀ c ∈ text.toList, isTitlecase c = false := by
      intro c hc
      by_contra htitle
      exact h ⟨hnone, c, hc, by simpa using htitle⟩
    have hsame := (Unicode.lowercase_eq_self_iff hnone).mpr htitle
    simp [standardTerm, Token.lowercase, Token.ofText, hupper, lowercaseString, hsame]

private theorem standardTerm_eq_iff :
    standardTerm text = lowercaseString text ↔ ¬ IsPassedOver text := by
  refine ⟨fun h hpassed => ?_, standardTerm_of_not_passedOver⟩
  obtain ⟨hsame, hother⟩ := standardTerm_of_passedOver hpassed
  exact hother (h.symm.trans hsame)

theorem standardTerm_inj_iff {other : String}
    (hlower : lowercaseString text = lowercaseString other) :
    standardTerm text = standardTerm other ↔
      text = other ∨ ¬ IsPassedOver text ∧ ¬ IsPassedOver other := by
  constructor
  · intro hterm
    by_cases htext : IsPassedOver text
    · obtain ⟨hsame, hne⟩ := standardTerm_of_passedOver htext
      refine .inl ?_
      by_cases hother : IsPassedOver other
      · rw [← hsame, hterm, (standardTerm_of_passedOver hother).1]
      · rw [hsame, standardTerm_of_not_passedOver hother, ← hlower] at hterm
        exact absurd hterm.symm hne
    · by_cases hother : IsPassedOver other
      · obtain ⟨hsame, hne⟩ := standardTerm_of_passedOver hother
        rw [hsame, standardTerm_of_not_passedOver htext, hlower] at hterm
        exact absurd hterm hne
      · exact .inr ⟨htext, hother⟩
  · rintro (rfl | ⟨htext, hother⟩)
    · rfl
    · rw [standardTerm_of_not_passedOver htext, standardTerm_of_not_passedOver hother, hlower]

end Term

namespace Analyzer

variable {text : String}

private theorem terms_standard (text : String) :
    standard.terms text = (plain.terms text).map standardTerm := by
  simp [terms, analyze, Token.lowercase_eq]

private theorem terms_plain_of_word (h : IsWord text) : plain.terms text = [text] := by
  obtain ⟨hne, hword⟩ := h
  obtain ⟨c, rest, hcons⟩ : ∃ c rest, text.toList = c :: rest :=
    List.exists_cons_of_ne_nil (mt String.toList_eq_nil_iff.mp hne)
  obtain ⟨hfirst, hrest⟩ := List.forall_mem_cons.mp (hcons ▸ hword)
  have hspans : wordSpans 0 text.toList = [⟨0, text.toList⟩] := by
    rw [hcons, wordSpans, if_pos hfirst]
    dsimp only
    rw [List.takeWhile_eq_self_iff.mpr hrest, List.dropWhile_eq_nil_iff.mpr hrest, wordSpans]
  simp [terms, analyze, tokenize, hspans, WordSpan.toToken]

private theorem terms_standard_of_word (h : IsWord text) :
    standard.terms text = [standardTerm text] := by
  rw [terms_standard, terms_plain_of_word h, List.map_singleton]

end Analyzer

private theorem IsWord.quote_not_mem {text : String} (h : IsWord text) : '"' ∉ text.toList := by
  intro hmem
  exact absurd (h.2 '"' hmem) (by decide)

private theorem Index.mem_found_of_word {documents : List Document} {fields : List String}
    {word other : String} {query : Query} {id : Nat} {d : Document} {field : StoredField}
    (hword : IsWord word) (hquery : Query.ofText .standard fields word = .ok query)
    (hd : documents[id]? = some d) (hfield : field ∈ d.fields) (hname : field.name ∈ fields)
    (hother : other ∈ Analyzer.plain.terms field.value.display)
    (hterm : standardTerm other = standardTerm word) :
    id ∈ (Index.ofDocuments .standard documents).found query := by
  have hterms := Analyzer.terms_standard_of_word hword
  rw [(Index.summarizes_ofDocuments .standard documents).mem_found_ofText hquery]
  refine ⟨d, hd, by simp [hterms], field.name, hname, ?_⟩
  rw [hterms, List.forall_mem_singleton]
  refine ⟨field.value, ?_, ?_⟩
  · exact List.mem_map_of_mem (List.mem_filter.mpr ⟨hfield, beq_self_eq_true _⟩)
  · rw [Analyzer.terms_standard, ← hterm]
    exact List.mem_map_of_mem hother

/-- Lowercasing keeps where a token stands, and its text becomes the lowercase form unless the token
is passed over. Another word with the same lowercase form has the same term, unless the two are
different and one of them is passed over. With one term they make the same queries, and each of them
finds the documents that have either of them in a field that is searched. -/
theorem lowercase_agrees (t : Token) (other : String) :
    (t.lowercase.position = t.position ∧ t.lowercase.start = t.start ∧ t.lowercase.stop = t.stop ∧
      (t.lowercase.text = lowercaseString t.text ↔ ¬ IsPassedOver t.text)) ∧
    (IsWord t.text → IsWord other → lowercaseString t.text = lowercaseString other →
      (Analyzer.standard.terms t.text = Analyzer.standard.terms other ↔
        t.text = other ∨ ¬ IsPassedOver t.text ∧ ¬ IsPassedOver other) ∧
      (t.text = other ∨ ¬ IsPassedOver t.text ∧ ¬ IsPassedOver other → ∀ fields, fields ≠ [] →
        ∃ query, Query.ofText .standard fields t.text = .ok query ∧
          Query.ofText .standard fields other = .ok query ∧
          Query.parse ⟨.standard, fields⟩ ("\"" ++ t.text ++ "\"") = .ok query ∧
          Query.parse ⟨.standard, fields⟩ ("\"" ++ other ++ "\"") = .ok query ∧
          ∀ documents id d, documents[id]? = some d → ∀ field ∈ d.fields, field.name ∈ fields →
            t.text ∈ Analyzer.plain.terms field.value.display ∨
              other ∈ Analyzer.plain.terms field.value.display →
            id ∈ (Index.ofDocuments .standard documents).found query)) := by
  constructor
  · rw [t.lowercase_eq]
    exact ⟨rfl, rfl, rfl, standardTerm_eq_iff⟩
  intro ht hother hlower
  have hterms : Analyzer.standard.terms t.text = Analyzer.standard.terms other ↔
      standardTerm t.text = standardTerm other := by
    rw [Analyzer.terms_standard_of_word ht, Analyzer.terms_standard_of_word hother,
      List.singleton_inj]
  have hiff := standardTerm_inj_iff hlower
  refine ⟨hterms.trans hiff, fun heither fields hfields => ?_⟩
  have hterm : standardTerm t.text = standardTerm other := hiff.mpr heither
  obtain ⟨query, hquery⟩ := Query.exists_ofText hfields .standard t.text
  have hsame : Query.ofText .standard fields other = .ok query := by
    have hne : ¬ fields.isEmpty = true := by simpa using hfields
    rw [← hquery, Query.ofText, Query.ofText, if_neg hne, if_neg hne, hterms.mpr hterm]
  refine ⟨query, hquery, hsame, Query.parse_quoted ht.quote_not_mem hquery,
    Query.parse_quoted hother.quote_not_mem hsame, ?_⟩
  intro documents id d hd field hfield hname hword
  rcases hword with hword | hword
  · exact Index.mem_found_of_word ht hquery hd hfield hname hword rfl
  · exact Index.mem_found_of_word ht hquery hd hfield hname hword hterm.symm

theorem lowercase_agrees_fox :
    lowercaseString "Fox" = lowercaseString "FOX" ∧
    Analyzer.standard.terms "Fox" = Analyzer.standard.terms "FOX" ∧
    ∃ query, Query.parse ⟨.standard, ["f"]⟩ ("\"" ++ "FOX" ++ "\"") = .ok query ∧
      0 ∈ (Index.ofDocuments .standard [⟨[⟨"f", .text "Fox"⟩]⟩]).found query := by
  have hword : IsWord "Fox" ∧ IsWord "FOX" := by decide
  have hlower : lowercaseString "Fox" = lowercaseString "FOX" := by decide
  have hpassed : ¬ IsPassedOver "Fox" ∧ ¬ IsPassedOver "FOX" := by decide
  obtain ⟨hterms, hfound⟩ := (lowercase_agrees (.ofText "Fox" 0) "FOX").2 hword.1 hword.2 hlower
  obtain ⟨query, -, -, -, hparse, hdocuments⟩ := hfound (.inr hpassed) ["f"] (List.cons_ne_nil _ _)
  refine ⟨hlower, hterms.mpr (.inr hpassed), query, hparse, ?_⟩
  have hplain : "Fox" ∈ Analyzer.plain.terms (StoredValue.text "Fox").display := by
    show "Fox" ∈ Analyzer.plain.terms "Fox"
    rw [Analyzer.terms_plain_of_word hword.1]
    exact List.mem_singleton_self _
  exact hdocuments _ 0 _ rfl _ List.mem_cons_self List.mem_cons_self (.inl hplain)

/-- A titlecase letter has a lowercase form, but its token is not put in it. -/
theorem titlecase_passed_over :
    (Token.ofText "ǅ" 0).lowercase.text ≠ lowercaseString "ǅ" ∧
    lowercaseString "ǅ" = lowercaseString "ǆ" ∧
    Analyzer.standard.terms "ǅ" ≠ Analyzer.standard.terms "ǆ" := by
  have hword : IsWord "ǅ" ∧ IsWord "ǆ" := by decide
  refine ⟨by decide, by decide, ?_⟩
  rw [Analyzer.terms_standard_of_word hword.1, Analyzer.terms_standard_of_word hword.2]
  decide

end PagedSearch
