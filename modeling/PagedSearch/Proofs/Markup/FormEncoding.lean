import Mathlib.Data.FinEnum
import PagedSearch.Json.Token
import PagedSearch.Markup.Escape
import PagedSearch.Proofs.Excerpt.Replacement

/-!
# Form encoding

Percent encoding writes a text byte by byte, each byte as one character or as an escape. What is
rewritten afterwards are whole characters and whole escapes, so the result is the standard form of
the text, again byte by byte, and reading it gives the text back.
-/

namespace PagedSearch

def isFormByte (byte : UInt8) : Bool :=
  let c := Char.ofNat byte.toNat
  byte < 128 && (c.isAlphanum || c == '.' || c == '-' || c == '*' || c == '_')

/-- A byte in the standard form: itself, a plus sign for a space, or an escape. -/
def formByte (byte : UInt8) : List Char :=
  if isFormByte byte then [.ofNat byte.toNat]
  else if byte = 32 then ['+']
  else escapeByte byte

def hexByte? (high low : Char) : Option UInt8 := do
  return .ofNat (16 * (← JsonToken.hexDigit? high) + (← JsonToken.hexDigit? low))

def formBytes (text : List Char) : List UInt8 :=
  match text with
  | [] => []
  | '+' :: rest => 32 :: formBytes rest
  | '%' :: high :: low :: rest =>
    match hexByte? high low with
    | some byte => byte :: formBytes rest
    | none => 37 :: formBytes (high :: low :: rest)
  | c :: rest => String.utf8EncodeChar c ++ formBytes rest
termination_by text.length

def formDecode? (text : List Char) : Option (List Char) :=
  (formBytes text).toByteArray.utf8Decode?.map Array.toList

section Units

private theorem hexDigit?_upperHexChar :
    ∀ n < 16, JsonToken.hexDigit? (upperHexChar n) = some n := by
  decide

private theorem not_mem_digits {c : Char} (hc : JsonToken.hexDigit? c = none) (byte : UInt8) :
    c ∉ [upperHexChar (byte.toNat / 16), upperHexChar (byte.toNat % 16)] := by
  have hlt := byte.toNat_lt
  have hdigit (n : Nat) (hn : n < 16) : c ≠ upperHexChar n := by
    rintro rfl
    rw [hexDigit?_upperHexChar n hn] at hc
    cases hc
  simp [hdigit _ (by omega : byte.toNat / 16 < 16), hdigit _ (by omega : byte.toNat % 16 < 16)]

def IsFormUnit (unit : List Char) : Prop :=
  (∃ c, c ≠ '%' ∧ unit = [c]) ∨ ∃ byte, unit = escapeByte byte

private theorem IsFormUnit.replacePart {mark replacement unit : List Char} (h : IsFormUnit unit)
    (hreplacement : IsFormUnit replacement) : IsFormUnit (replacePart mark replacement unit) := by
  rw [PagedSearch.replacePart]
  split
  · exact hreplacement
  · exact h

private theorem isFormUnit_percentByte (byte : UInt8) : IsFormUnit (percentByte byte) := by
  rw [percentByte]
  split
  · rename_i hbyte
    refine .inl ⟨_, ?_, rfl⟩
    intro hpercent
    simp [isUnreserved, hpercent] at hbyte
  · exact .inr ⟨byte, rfl⟩

variable {f : UInt8 → List Char} (hf : ∀ byte, IsFormUnit (f byte)) (replacement : List Char)

include hf

private theorem replaceText_escape (escaped : UInt8) (bytes : List UInt8) :
    replaceText (escapeByte escaped) replacement (bytes.flatMap f) =
      bytes.flatMap fun byte => replacePart (escapeByte escaped) replacement (f byte) := by
  refine replaceText_flatMap replacement (List.cons_ne_nil _ _) (fun byte => ?_) bytes
  rcases hf byte with ⟨c, hc, hunit⟩ | ⟨other, hunit⟩
  · rw [hunit]
    exact .inr (beginsNowhere_of_not_mem (by simpa using hc.symm))
  · by_cases heq : escapeByte other = escapeByte escaped
    · exact .inl (hunit.trans heq)
    · rw [hunit]
      exact .inr (beginsNowhere_of_ne rfl (fun h => heq (congrArg ('%' :: ·) h))
        (not_mem_digits rfl other))

private theorem replaceText_mark_unit {mark : Char} (hdigit : JsonToken.hexDigit? mark = none)
    (hmark : mark ≠ '%') (bytes : List UInt8) :
    replaceText [mark] replacement (bytes.flatMap f) =
      bytes.flatMap fun byte => replacePart [mark] replacement (f byte) := by
  refine replaceText_flatMap replacement (List.cons_ne_nil _ _) (fun byte => ?_) bytes
  rcases hf byte with ⟨c, -, hunit⟩ | ⟨other, hunit⟩
  · by_cases heq : c = mark
    · exact .inl (by rw [hunit, heq])
    · rw [hunit]
      exact .inr (beginsNowhere_of_not_mem (by simpa using Ne.symm heq))
  · rw [hunit]
    refine .inr (beginsNowhere_of_not_mem ?_)
    rw [escapeByte, List.mem_cons, not_or]
    exact ⟨hmark, not_mem_digits hdigit other⟩

end Units

theorem replaced_percentByte : ∀ byte : UInt8,
    replacePart ['~'] (escapeByte 126) (replacePart (escapeByte 42) ['*']
      (replacePart (escapeByte 32) ['+'] (percentByte byte))) = formByte byte := by
  decide +kernel

private theorem formEncode_eq_flatMap (text : List Char) :
    formEncode text = (text.flatMap String.utf8EncodeChar).flatMap formByte := by
  have hescapes : ['%', '2', '0'] = escapeByte 32 ∧ ['%', '2', 'A'] = escapeByte 42 ∧
      ['%', '7', 'E'] = escapeByte 126 := by decide
  have hspaced (byte : UInt8) :
      IsFormUnit (replacePart (escapeByte 32) ['+'] (percentByte byte)) :=
    (isFormUnit_percentByte byte).replacePart (.inl ⟨'+', by decide, rfl⟩)
  have hstarred (byte : UInt8) : IsFormUnit (replacePart (escapeByte 42) ['*']
      (replacePart (escapeByte 32) ['+'] (percentByte byte))) :=
    (hspaced byte).replacePart (.inl ⟨'*', by decide, rfl⟩)
  rw [formEncode, percentEncode, hescapes.1, hescapes.2.1, hescapes.2.2,
    replaceText_escape isFormUnit_percentByte, replaceText_escape hspaced,
    replaceText_mark_unit hstarred _ rfl (by decide)]
  simp only [replaced_percentByte]

/-- An escape in the text itself is no escape of the form. -/
example : formEncode "a%20~*+".toList = "a%2520%7E*%2B".toList := by cbv

private theorem formBytes_cons {c : Char} (hplus : c ≠ '+') (hpercent : c ≠ '%')
    (rest : List Char) :
    formBytes (c :: rest) = String.utf8EncodeChar c ++ formBytes rest := by
  rw [formBytes]
  · exact hplus
  · exact fun _ _ _ h => absurd h hpercent

private theorem formBytes_escapeByte (byte : UInt8) (rest : List Char) :
    formBytes (escapeByte byte ++ rest) = byte :: formBytes rest := by
  have hlt := byte.toNat_lt
  have hbyte : hexByte? (upperHexChar (byte.toNat / 16)) (upperHexChar (byte.toNat % 16)) =
      some byte := by
    rw [hexByte?, hexDigit?_upperHexChar _ (by omega), hexDigit?_upperHexChar _ (by omega)]
    change some (UInt8.ofNat (16 * (byte.toNat / 16) + byte.toNat % 16)) = some byte
    rw [Nat.div_add_mod, UInt8.ofNat_toNat]
  rw [escapeByte, List.cons_append, List.cons_append, List.cons_append, List.nil_append, formBytes,
    hbyte]

private theorem isFormByte_char : ∀ byte : UInt8, isFormByte byte = true →
    Char.ofNat byte.toNat ≠ '+' ∧ Char.ofNat byte.toNat ≠ '%' ∧
      String.utf8EncodeChar (.ofNat byte.toNat) = [byte] := by
  decide +kernel

private theorem formBytes_formByte (byte : UInt8) (rest : List Char) :
    formBytes (formByte byte ++ rest) = byte :: formBytes rest := by
  rw [formByte]
  split
  · rename_i hbyte
    obtain ⟨hplus, hpercent, hencoded⟩ := isFormByte_char byte hbyte
    rw [List.singleton_append, formBytes_cons hplus hpercent, hencoded, List.singleton_append]
  split
  · rename_i hspace
    rw [List.singleton_append, formBytes, hspace]
  · exact formBytes_escapeByte byte rest

private theorem formBytes_flatMap_formByte (bytes : List UInt8) :
    formBytes (bytes.flatMap formByte) = bytes := by
  induction bytes with
  | nil => rw [List.flatMap_nil, formBytes]
  | cons byte rest ih => rw [List.flatMap_cons, formBytes_formByte, ih]

/-- The form encoding of a text is the standard one of its bytes in UTF-8, and reading it gives the
text back. -/
theorem formEncode_standard (text : List Char) :
    formEncode text = (text.flatMap String.utf8EncodeChar).flatMap formByte ∧
      formDecode? (formEncode text) = some text := by
  refine ⟨formEncode_eq_flatMap text, ?_⟩
  have hread : formDecode? (formEncode text) = text.utf8Encode.utf8Decode?.map Array.toList := by
    rw [formDecode?, formEncode_eq_flatMap, formBytes_flatMap_formByte, List.utf8Encode]
  rw [hread, List.utf8Decode?_utf8Encode, Option.map_some]

end PagedSearch
