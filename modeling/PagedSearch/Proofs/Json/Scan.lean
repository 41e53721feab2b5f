import PagedSearch.Proofs.Json.BinaryLiteral
import PagedSearch.Proofs.Json.Text

/-! # Scanning tokens -/

namespace PagedSearch

namespace JsonToken

variable {c : Char} {rest : List Char}

theorem scan?_nil : scan? [] = some [] := by rw [scan?]

theorem scan?_null (rest : List Char) :
    scan? ('n' :: 'u' :: 'l' :: 'l' :: rest) = (scan? rest).map (.null :: ·) := by
  rw [scan?]

theorem scan?_true (rest : List Char) :
    scan? ('t' :: 'r' :: 'u' :: 'e' :: rest) = (scan? rest).map (.bool true :: ·) := by
  rw [scan?]

theorem scan?_false (rest : List Char) :
    scan? ('f' :: 'a' :: 'l' :: 's' :: 'e' :: rest) = (scan? rest).map (.bool false :: ·) := by
  rw [scan?]

def starts : List Char := ['n', 't', 'f', '"']

def marks : List Char := ['[', ']', '\x7b', '\x7d', ',', ':']

private theorem scan?_of_plain (h : c ∉ starts) (rest : List Char) :
    scan? (c :: rest) =
      if isBlank c then scan? rest
      else
        match ofMark? c with
        | some mark => (scan? rest).map (mark :: ·)
        | none =>
          if JsonLiteral.isLiteralChar c then do
            let literal ← JsonLiteral.read? (c :: rest.takeWhile JsonLiteral.isLiteralChar)
            let tokens ← scan? (rest.dropWhile JsonLiteral.isLiteralChar)
            return .number literal :: tokens
          else none := by
  simp only [starts, List.mem_cons, List.not_mem_nil, or_false, not_or] at h
  rw [scan?]
  all_goals first | rfl | simp [h]

private theorem not_mem_of_kind {kind : Char → Bool} {others : List Char}
    (hothers : ∀ c ∈ others, kind c = false) (h : kind c = true) : c ∉ others := by
  intro hc
  rw [hothers c hc] at h
  cases h

theorem scan?_blank (h : isBlank c = true) (rest : List Char) : scan? (c :: rest) = scan? rest := by
  rw [scan?_of_plain (not_mem_of_kind (by decide) h), if_pos h]

theorem scan?_blanks {blanks : List Char} (h : ∀ c ∈ blanks, isBlank c = true)
    (rest : List Char) : scan? (blanks ++ rest) = scan? rest := by
  induction blanks with
  | nil => rfl
  | cons c blanks ih =>
    obtain ⟨hc, hblanks⟩ := List.forall_mem_cons.mp h
    rw [List.cons_append, scan?_blank hc, ih hblanks]

private theorem mem_marks_of_ofMark? {mark : JsonToken} (h : ofMark? c = some mark) :
    c ∈ marks := by
  unfold ofMark? at h
  split at h <;> first | decide | cases h

private theorem plain_of_mem_marks : ∀ c ∈ marks, c ∉ starts ∧ isBlank c = false := by decide

theorem scan?_mark {mark : JsonToken} (h : ofMark? c = some mark) (rest : List Char) :
    scan? (c :: rest) = (scan? rest).map (mark :: ·) := by
  obtain ⟨hstarts, hblank⟩ := plain_of_mem_marks c (mem_marks_of_ofMark? h)
  rw [scan?_of_plain hstarts, hblank, h]
  rfl

theorem scan?_text {content : Option String} {tail : List Char}
    (h : scanText? rest = some (content, tail)) :
    scan? ('"' :: rest) = (scan? tail).map (.text content :: ·) := by
  rw [scan?]
  split
  · simp_all
  · simp_all

private theorem ofMark?_of_isLiteralChar (h : JsonLiteral.isLiteralChar c = true) :
    ofMark? c = none := by
  cases hmark : ofMark? c with
  | none => rfl
  | some mark => exact absurd (mem_marks_of_ofMark? hmark) (not_mem_of_kind (by decide) h)

private theorem isBlank_of_isLiteralChar (h : JsonLiteral.isLiteralChar c = true) :
    isBlank c = false := by
  have hblanks : c ∉ [' ', '\n', '\r', '\t'] := not_mem_of_kind (by decide) h
  simpa [isBlank, and_assoc] using hblanks

theorem scan?_literal {literal : JsonLiteral} (h : literal.IsPlain)
    (hrest : Stops JsonLiteral.isLiteralChar rest) :
    scan? (literal.text ++ rest) = (scan? rest).map (.number literal :: ·) := by
  obtain ⟨c, tail, hcons⟩ := List.exists_cons_of_ne_nil h.text_ne_nil
  have hall := JsonLiteral.isLiteralChar_of_mem_text h
  rw [hcons] at hall
  obtain ⟨hc, htail⟩ := List.forall_mem_cons.mp hall
  have hread := JsonLiteral.read?_text h
  rw [hcons] at hread
  rw [hcons, List.cons_append, scan?_of_plain (not_mem_of_kind (by decide) hc),
    isBlank_of_isLiteralChar hc, ofMark?_of_isLiteralChar hc, if_neg Bool.false_ne_true]
  dsimp only
  rw [if_pos hc, takeWhile_append_of_stops htail hrest, dropWhile_append_of_stops htail hrest, hread]
  cases scan? rest <;> rfl

end JsonToken

end PagedSearch
