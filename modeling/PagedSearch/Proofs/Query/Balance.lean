import PagedSearch.Fault.Basic
import PagedSearch.Proofs.Query.Group

/-!
# Balanced query texts

Every text is either read to its end as a query or refused with a message that quotes it. In a text
that is read, quotes pair up, parentheses outside of phrases are balanced, and no group is blank.
-/

namespace PagedSearch

namespace Query

/-- Quotes pair up. Outside of them each opening parenthesis has its closing one, and what the two
enclose is not blank. -/
inductive Balanced : List Char → Prop where
  | nil : Balanced []
  | plain {c : Char} {rest : List Char} (plain : c ∉ ['(', ')', '"']) (others : Balanced rest) :
      Balanced (c :: rest)
  | quoted {phrase rest : List Char} (unquoted : '"' ∉ phrase) (others : Balanced rest) :
      Balanced ('"' :: (phrase ++ '"' :: rest))
  | group {inner rest : List Char} (filled : Unicode.isBlank inner = false)
      (within : Balanced inner) (others : Balanced rest) :
      Balanced ('(' :: (inner ++ ')' :: rest))

namespace Balanced

variable {text rest : List Char}

private theorem append (h : Balanced text) (hrest : Balanced rest) : Balanced (text ++ rest) := by
  induction h with
  | nil => exact hrest
  | plain hplain _ ih => exact .plain hplain ih
  | quoted unquoted _ ih =>
    rw [List.cons_append, List.append_assoc, List.cons_append]
    exact .quoted unquoted ih
  | group filled within _ _ ih =>
    rw [List.cons_append, List.append_assoc, List.cons_append]
    exact .group filled within ih

theorem of_plain (h : ∀ c ∈ text, c ∉ ['(', ')', '"']) : Balanced text := by
  induction text with
  | nil => exact .nil
  | cons c text ih =>
    obtain ⟨hc, htext⟩ := List.forall_mem_cons.mp h
    exact .plain hc (ih htext)

private theorem of_all {p : Char → Bool} (hp : ∀ c ∈ ['(', ')', '"'], p c = false)
    (h : ∀ c ∈ text, p c = true) : Balanced text := by
  apply of_plain
  intro c hc hmark
  have hfalse := hp c hmark
  rw [h c hc] at hfalse
  cases hfalse

end Balanced

private theorem isSpace_of_mark : ∀ c ∈ ['(', ')', '"'], Unicode.isSpace c = false := by decide

private theorem isBareChar_of_mark : ∀ c ∈ ['(', ')', '"'], isBareChar c = false := by decide

private theorem isBoostChar_of_mark : ∀ c ∈ ['(', ')', '"'], isBoostChar c = false := by decide

theorem isSpace_of_isBareChar {c : Char} (h : isBareChar c = true) : Unicode.isSpace c = false := by
  simp only [isBareChar, Bool.and_eq_true, Bool.not_eq_true'] at h
  exact h.1.1.1.1

private theorem isBlank_append (text rest : List Char) :
    Unicode.isBlank (text ++ rest) = (Unicode.isBlank text && Unicode.isBlank rest) :=
  List.all_append

theorem isBlank_cons {c : Char} (h : Unicode.isSpace c = false) (rest : List Char) :
    Unicode.isBlank (c :: rest) = false := by
  simp [Unicode.isBlank, h]

def Spans (filled : Prop) (text rest : List Char) : Prop :=
  ∃ front, text = front ++ rest ∧ Balanced front ∧ (filled → Unicode.isBlank front = false)

namespace Spans

variable {p q : Prop} {text middle rest : List Char}

private theorem refl (text : List Char) : Spans False text text :=
  ⟨[], rfl, .nil, False.elim⟩

private theorem imp (h : Spans p text rest) (hqp : q → p) : Spans q text rest := by
  obtain ⟨front, hfront, hbalanced, hfilled⟩ := h
  exact ⟨front, hfront, hbalanced, fun hq => hfilled (hqp hq)⟩

private theorem trans (h : Spans p text middle) (hrest : Spans q middle rest) :
    Spans (p ∨ q) text rest := by
  obtain ⟨front, rfl, hbalanced, hfilled⟩ := h
  obtain ⟨more, rfl, hmore, hfilled'⟩ := hrest
  refine ⟨front ++ more, (List.append_assoc front more rest).symm, hbalanced.append hmore, ?_⟩
  intro hpq
  rw [isBlank_append, Bool.and_eq_false_iff]
  exact hpq.imp hfilled hfilled'

private theorem dropWhile {kind : Char → Bool} (h : ∀ c ∈ ['(', ')', '"'], kind c = false)
    (text : List Char) : Spans False text (text.dropWhile kind) := by
  refine ⟨text.takeWhile kind, List.takeWhile_append_dropWhile.symm, ?_, False.elim⟩
  exact .of_all h fun _ => List.mem_takeWhile_imp

private theorem trimStart (text : List Char) : Spans False text (Unicode.trimStart text) :=
  dropWhile isSpace_of_mark text

private theorem cons {c : Char} (h : c ∉ ['(', ')', '"']) (rest : List Char) :
    Spans False (c :: rest) rest :=
  ⟨[c], rfl, .plain h .nil, False.elim⟩

private theorem word {c : Char} (h : isBareChar c = true) (rest : List Char) :
    Spans True (c :: rest) (rest.dropWhile isBareChar) := by
  refine ⟨c :: rest.takeWhile isBareChar, ?_, ?_, ?_⟩
  · rw [List.cons_append, List.takeWhile_append_dropWhile]
  · apply Balanced.of_all isBareChar_of_mark
    exact List.forall_mem_cons.mpr ⟨h, fun _ => List.mem_takeWhile_imp⟩
  · exact fun _ => isBlank_cons (isSpace_of_isBareChar h) _

private theorem enclose (h : Spans True text (')' :: rest)) : Spans True ('(' :: text) rest := by
  obtain ⟨inner, rfl, hbalanced, hfilled⟩ := h
  refine ⟨'(' :: (inner ++ [')']), by simp, .group (hfilled trivial) hbalanced .nil, ?_⟩
  exact fun _ => isBlank_cons (by decide) _

private theorem quote {phrase : String} (h : splitPhrase text = .ok (phrase, rest)) :
    Spans True ('"' :: text) rest := by
  unfold splitPhrase at h
  split at h
  · rename_i c tail hdrop
    cases h
    obtain rfl : c = '"' := by
      have hstops := stops_dropWhile (· ≠ '"') text
      rw [hdrop] at hstops
      simpa using hstops c rfl
    have hphrase : '"' ∉ text.takeWhile (· ≠ '"') := by
      intro hmem
      simpa using List.mem_takeWhile_imp hmem
    refine ⟨'"' :: (text.takeWhile (· ≠ '"') ++ ['"']), ?_, .quoted hphrase .nil, ?_⟩
    · rw [List.cons_append, List.append_assoc, List.singleton_append, ← hdrop,
        List.takeWhile_append_dropWhile]
    · exact fun _ => isBlank_cons (by decide) _
  · cases h

private theorem splitPrefix (text : List Char) : Spans False text (splitPrefix text).2 := by
  unfold Query.splitPrefix
  split
  · exact cons (by decide) _
  · exact cons (by decide) _
  · split
    · exact ((dropWhile isBareChar_of_mark text).trans (trimStart _)).imp .inl
    · exact refl text

private theorem applyBoost {query boosted : Query}
    (h : applyBoost query text = .ok (boosted, rest)) :
    Spans False text rest := by
  unfold Query.applyBoost at h
  split at h
  · rename_i tail
    dsimp only at h
    split at h
    · cases h
      exact ((cons (by decide) tail).trans (dropWhile isBoostChar_of_mark tail)).imp .inl
    · cases h
  · cases h
    exact refl text

end Spans

def Reading.behind : Reading → List Char → List Char
  | .clauses true .., rest => ')' :: rest
  | .clauses false .., rest | .clause _, rest | .primary _, rest => rest

def Reading.IsWhole : Reading → Prop
  | .clauses _ before .. => before = []
  | .clause _ | .primary _ => True

variable {scope : QueryScope} {text rest : List Char} {query : Query}

private theorem ne_nil_of_complete {before : List (ClauseRole × Query)}
    {pending : Option Connective} (complete : ofClauses before pending = .ok query) :
    before ≠ [] := by
  rintro rfl
  cases pending <;> cases complete

/-- What is read is balanced, and it is not blank. -/
theorem Reads.spans {reading : Reading} (h : Reads scope reading text rest) :
    Spans reading.IsWhole text (reading.behind rest) := by
  induction h with
  | @finish _ _ _ _ text blank complete =>
    have hspace := Spans.trimStart text
    rw [blank] at hspace
    exact hspace.imp (ne_nil_of_complete complete)
  | @close _ _ _ _ text _ closed complete =>
    have hspace := Spans.trimStart text
    rw [closed] at hspace
    exact hspace.imp (ne_nil_of_complete complete)
  | @connective _ grouped _ _ text c tail _ operator opens inside word follows others ih =>
    have hspace := Spans.trimStart text
    rw [opens] at hspace
    -- a connective is a word, so it does not begin at a parenthesis or a quote
    have hbare : isBareChar c = true := by
      by_contra hc
      rw [List.takeWhile_cons_of_neg hc] at word
      cases word
    have hothers := (hspace.trans (Spans.word hbare tail)).trans ih
    cases grouped <;> exact hothers.imp fun _ => .inl (.inr trivial)
  | @next _ grouped _ _ _ text c tail _ _ _ opens inside word first others ihFirst ihOthers =>
    have hspace := Spans.trimStart text
    rw [opens] at hspace
    have hclauses := (hspace.trans ihFirst).trans ihOthers
    cases grouped <;> exact hclauses.imp fun _ => .inl (.inr trivial)
  | boosted inner boost ih =>
    have hclause := ((Spans.splitPrefix _).trans ih).trans (Spans.applyBoost boost)
    exact hclause.imp fun _ => .inl (.inr trivial)
  | group inner ih => exact (ih.imp fun _ => rfl).enclose
  | phrase quoted terms => exact .quote quoted
  | word bare unqualified terms => exact .word bare _
  | fieldWord bare qualified wordy terms => exact .word bare _
  | @fieldPhrase _ _ text _ _ _ _ _ bare qualified opens quoted terms =>
    have hword := Spans.word bare text
    rw [opens] at hword
    exact (hword.trans (.quote quoted)).imp .inl
  | @fieldGroup _ _ text _ _ _ _ bare qualified opens inner ih =>
    have hword := Spans.word bare text
    rw [opens] at hword
    exact (hword.trans (ih.imp fun _ => rfl).enclose).imp .inl

/-- Every text is read as a query or refused as one that cannot be parsed, in a message that quotes
it. A query is read from the whole text, and the text is balanced. -/
theorem parse_balanced_or_refused (scope : QueryScope) (text : String) :
    (∃ query, parse scope text = .ok query ∧
      (∃ h, readClauses scope false [] none text.toList = .ok (query, ⟨[], h⟩)) ∧
      Balanced text.toList) ∨
    ∃ e, (parse scope text).mapError (SearchError.query text) = .error e ∧
      e.kind = .queryParse ∧ ∃ reason, e.detail = "Cannot parse '" ++ text ++ "': " ++ reason := by
  rcases hparse : parse scope text with fault | query
  · exact .inr ⟨.query text fault, rfl, rfl, fault.reason, rfl⟩
  · have hreads := parse_eq_ok_iff.mp hparse
    obtain ⟨front, hfront, hbalanced, -⟩ := hreads.spans
    rw [Reading.behind, List.append_nil] at hfront
    rw [← hfront] at hbalanced
    exact .inl ⟨query, rfl, reads_iff_isAnswered.mp hreads, hbalanced⟩

end Query

end PagedSearch
