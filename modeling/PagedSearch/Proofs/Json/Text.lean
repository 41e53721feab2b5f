import PagedSearch.Json.Value

/-! # String literals -/

namespace PagedSearch

open JsonToken

variable {c : Char} (rest : List Char)

def JsonToken.consPiece (piece : Piece) (read : List Piece × List Char) : List Piece × List Char :=
  (piece :: read.1, read.2)

private theorem scanPieces_escape {letter : Char} (h : escaped? letter = some c) :
    scanPieces ('\\' :: letter :: rest) = (scanPieces rest).map (consPiece (.char c)) := by
  have hletter : letter ≠ 'u' := by
    rintro rfl
    cases h
  rw [scanPieces, h]
  · cases scanPieces rest <;> rfl
  · simp [hletter]

private theorem scanPieces_unit {a b c d : Char} {unit : Nat} (h : hexUnit? a b c d = some unit) :
    scanPieces ('\\' :: 'u' :: a :: b :: c :: d :: rest) =
      (scanPieces rest).map (consPiece (.unit unit)) := by
  rw [scanPieces, h]
  cases scanPieces rest <;> rfl

private theorem scanPieces_plain (hquote : c ≠ '"') (hescape : c ≠ '\\') (hc : ¬c < ' ') :
    scanPieces (c :: rest) = (scanPieces rest).map (consPiece (.char c)) := by
  rw [scanPieces, if_neg hc]
  · cases scanPieces rest <;> rfl
  · simp [hquote]
  · simp [hescape]
  · simp [hescape]

namespace Json

def namedControls : List Char := ['\x08', '\x0c', '\n', '\r', '\t']

def pieceOf (c : Char) : Piece :=
  if c < ' ' ∧ c ∉ namedControls then .unit c.toNat else .char c

private theorem hexUnit?_hexChar :
    ∀ n < 32, hexUnit? '0' '0' (hexChar (n / 16)) (hexChar (n % 16)) = some n := by
  decide

private theorem escapeChar_cases (c : Char) :
    (∃ letter, escaped? letter = some c ∧ escapeChar c = ['\\', letter] ∧ pieceOf c = .char c) ∨
    (c < ' ' ∧ pieceOf c = .unit c.toNat ∧
      escapeChar c = ['\\', 'u', '0', '0', hexChar (c.toNat / 16), hexChar (c.toNat % 16)]) ∨
    (c ≠ '"' ∧ c ≠ '\\' ∧ ¬c < ' ' ∧ escapeChar c = [c] ∧ pieceOf c = .char c) := by
  by_cases hnamed : c ∈ '"' :: '\\' :: namedControls
  · left
    simp only [namedControls, List.mem_cons, List.not_mem_nil, or_false] at hnamed
    rcases hnamed with rfl | rfl | rfl | rfl | rfl | rfl | rfl
    · exact ⟨'"', rfl, rfl, rfl⟩
    · exact ⟨'\\', rfl, rfl, rfl⟩
    · exact ⟨'b', rfl, rfl, rfl⟩
    · exact ⟨'f', rfl, rfl, rfl⟩
    · exact ⟨'n', rfl, rfl, rfl⟩
    · exact ⟨'r', rfl, rfl, rfl⟩
    · exact ⟨'t', rfl, rfl, rfl⟩
  · right
    have hcontrols : c ∉ namedControls := by simp_all
    simp only [namedControls, List.mem_cons, List.not_mem_nil, or_false, not_or] at hnamed
    by_cases hc : c < ' '
    · simp [escapeChar, pieceOf, hc, hcontrols, hnamed]
    · simp [escapeChar, pieceOf, hc, hnamed]

private theorem scanPieces_escapeChar (c : Char) (rest : List Char) :
    scanPieces (escapeChar c ++ rest) = (scanPieces rest).map (consPiece (pieceOf c)) := by
  rcases escapeChar_cases c with ⟨letter, hletter, hwritten, hpiece⟩ | ⟨hc, hpiece, hwritten⟩ |
    ⟨hquote, hescape, hc, hwritten, hpiece⟩
  · rw [hwritten, hpiece]
    exact scanPieces_escape rest hletter
  · rw [hwritten, hpiece]
    exact scanPieces_unit rest (hexUnit?_hexChar c.toNat hc)
  · rw [hwritten, hpiece]
    exact scanPieces_plain rest hquote hescape hc

private theorem scanPieces_flatMap (s rest : List Char) :
    scanPieces (s.flatMap escapeChar ++ '"' :: rest) = some (s.map pieceOf, rest) := by
  induction s with
  | nil => rfl
  | cons c s ih =>
    rw [List.flatMap_cons, List.append_assoc, scanPieces_escapeChar, ih]
    rfl

private theorem spell?_pieceOf (c : Char) (pieces : List Piece) :
    spell? (pieceOf c :: pieces) = (spell? pieces).map (c :: ·) := by
  unfold pieceOf
  split
  · rename_i hc
    have hunit : c.toNat < 32 := hc.1
    have hhigh : isHighSurrogate c.toNat = false := by simp [isHighSurrogate]; omega
    have hlow : isLowSurrogate c.toNat = false := by simp [isLowSurrogate]; omega
    cases pieces with
    | nil => simp [spell?, hhigh, hlow, Char.ofNat_toNat]
    | cons piece pieces =>
      cases piece <;> simp [spell?, hhigh, hlow, Char.ofNat_toNat]
  · rw [spell?]

private theorem spell?_map (s : List Char) : spell? (s.map pieceOf) = some s := by
  induction s with
  | nil => rfl
  | cons c s ih => rw [List.map_cons, spell?_pieceOf, ih, Option.map_some]

/-- The reader finds the text of a string literal and what stands behind it. -/
theorem scanText?_quote (s : String) (rest : List Char) :
    scanText? (s.toList.flatMap escapeChar ++ '"' :: rest) = some (some s, rest) := by
  simp only [scanText?, scanPieces_flatMap, Option.map_some, spell?_map, String.ofList_toList]

end Json

end PagedSearch
