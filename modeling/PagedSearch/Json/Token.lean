import PagedSearch.Json.Number

/-!
# JSON tokens

The lexical layer of JSON. A string literal is kept even when its escapes name a lone surrogate
and so do not spell a text: whether that matters is for the reader of the value to decide.
-/

namespace PagedSearch

inductive JsonToken where
  | openList
  | closeList
  | openObject
  | closeObject
  | comma
  | colon
  | null
  | bool (b : Bool)
  | number (literal : JsonLiteral)
  | text (content : Option String)
deriving DecidableEq

namespace JsonToken

def hexDigit? (c : Char) : Option Nat :=
  if '0' ≤ c && c ≤ '9' then some (c.toNat - '0'.toNat)
  else if 'a' ≤ c && c ≤ 'f' then some (c.toNat - 'a'.toNat + 10)
  else if 'A' ≤ c && c ≤ 'F' then some (c.toNat - 'A'.toNat + 10)
  else none

def hexUnit? (a b c d : Char) : Option Nat := do
  return ((← hexDigit? a) * 16 + (← hexDigit? b)) * 256 + (← hexDigit? c) * 16 + (← hexDigit? d)

def escaped? : Char → Option Char
  | '"' => some '"'
  | '\\' => some '\\'
  | '/' => some '/'
  | 'b' => some '\x08'
  | 'f' => some '\x0c'
  | 'n' => some '\n'
  | 'r' => some '\r'
  | 't' => some '\t'
  | _ => none

inductive Piece where
  | char (c : Char)
  | unit (value : Nat)

/-- The pieces of a string literal up to its closing quote, with the text after it. Control
characters have to be escaped. -/
def scanPieces : List Char → Option (List Piece × List Char)
  | '"' :: rest => some ([], rest)
  | '\\' :: 'u' :: a :: b :: c :: d :: rest => do
    let unit ← hexUnit? a b c d
    let (pieces, rest) ← scanPieces rest
    return (.unit unit :: pieces, rest)
  | '\\' :: c :: rest => do
    let c ← escaped? c
    let (pieces, rest) ← scanPieces rest
    return (.char c :: pieces, rest)
  | c :: rest =>
    if c < ' ' then none else do
      let (pieces, rest) ← scanPieces rest
      return (.char c :: pieces, rest)
  | [] => none

def isHighSurrogate (unit : Nat) : Bool := 0xD800 ≤ unit && unit < 0xDC00

def isLowSurrogate (unit : Nat) : Bool := 0xDC00 ≤ unit && unit < 0xE000

/-- The text that pieces spell. A high surrogate has to be followed by a low one, and a low one
may not stand alone. -/
def spell? : List Piece → Option (List Char)
  | [] => some []
  | .char c :: rest => (spell? rest).map (c :: ·)
  | .unit high :: .unit low :: rest =>
    if isHighSurrogate high then
      if isLowSurrogate low then
        (spell? rest).map (.ofNat (0x10000 + (high - 0xD800) * 0x400 + (low - 0xDC00)) :: ·)
      else none
    else if isLowSurrogate high then none
    else (spell? (.unit low :: rest)).map (.ofNat high :: ·)
  | .unit unit :: rest =>
    if isHighSurrogate unit || isLowSurrogate unit then none
    else (spell? rest).map (.ofNat unit :: ·)

def scanText? (text : List Char) : Option (Option String × List Char) :=
  (scanPieces text).map fun (pieces, rest) => ((spell? pieces).map .ofList, rest)

private theorem scanPieces_length {text : List Char} {pieces rest}
    (h : scanPieces text = some (pieces, rest)) : rest.length < text.length := by
  fun_induction scanPieces text generalizing pieces rest with
  | case1 => simp_all
  | case2 a b c d tail ih =>
    simp only [Option.bind_eq_bind, Option.pure_def, Option.bind_eq_some_iff] at h
    obtain ⟨_, _, ⟨_, _⟩, hp, he⟩ := h
    simp only [Option.some.injEq, Prod.mk.injEq] at he
    have := ih hp
    simp only [List.length_cons, ← he.2]
    omega
  | case3 c tail _ ih =>
    simp only [Option.bind_eq_bind, Option.pure_def, Option.bind_eq_some_iff] at h
    obtain ⟨_, _, ⟨_, _⟩, hp, he⟩ := h
    simp only [Option.some.injEq, Prod.mk.injEq] at he
    have := ih hp
    simp only [List.length_cons, ← he.2]
    omega
  | case4 => simp at h
  | case5 c tail _ _ _ _ ih =>
    simp only [Option.bind_eq_bind, Option.pure_def, Option.bind_eq_some_iff] at h
    obtain ⟨⟨_, _⟩, hp, he⟩ := h
    simp only [Option.some.injEq, Prod.mk.injEq] at he
    have := ih hp
    simp only [List.length_cons, ← he.2]
    omega
  | case6 => simp at h

theorem scanText?_length {text : List Char} {content rest}
    (h : scanText? text = some (content, rest)) : rest.length < text.length := by
  simp only [scanText?, Option.map_eq_some_iff] at h
  obtain ⟨⟨pieces, tail⟩, hp, he⟩ := h
  simp only [Prod.mk.injEq] at he
  exact he.2 ▸ scanPieces_length hp

def isBlank (c : Char) : Bool := c == ' ' || c == '\n' || c == '\r' || c == '\t'

def ofMark? : Char → Option JsonToken
  | '[' => some .openList
  | ']' => some .closeList
  | '\x7b' => some .openObject
  | '\x7d' => some .closeObject
  | ',' => some .comma
  | ':' => some .colon
  | _ => none

def scan? (text : List Char) : Option (List JsonToken) :=
  match text with
  | [] => some []
  | 'n' :: 'u' :: 'l' :: 'l' :: rest => (scan? rest).map (.null :: ·)
  | 't' :: 'r' :: 'u' :: 'e' :: rest => (scan? rest).map (.bool true :: ·)
  | 'f' :: 'a' :: 'l' :: 's' :: 'e' :: rest => (scan? rest).map (.bool false :: ·)
  | '"' :: rest =>
    match h : scanText? rest with
    | some (content, tail) =>
      have := scanText?_length h
      (scan? tail).map (.text content :: ·)
    | none => none
  | c :: rest =>
    if isBlank c then scan? rest
    else
      match ofMark? c with
      | some mark => (scan? rest).map (mark :: ·)
      | none =>
        if JsonLiteral.isLiteralChar c then do
          let literal ← JsonLiteral.read? (c :: rest.takeWhile JsonLiteral.isLiteralChar)
          let tokens ← scan? (rest.dropWhile JsonLiteral.isLiteralChar)
          return .number literal :: tokens
        else none
termination_by text.length
decreasing_by
  all_goals simp only [List.length_cons]
  any_goals omega
  · have := (List.dropWhile_sublist JsonLiteral.isLiteralChar (l := rest)).length_le
    omega

end JsonToken

end PagedSearch
