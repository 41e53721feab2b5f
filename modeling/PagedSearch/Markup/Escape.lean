/-!
# Escaped text

The characters that have a meaning in markup are written as references wherever a text is shown.
Web forms send the percent encoding of a text, in which a plus sign then stands for a space, an
asterisk for itself, and an escape for a tilde.
-/

namespace PagedSearch

/-- Splits a text at every occurrence of a separator, given by its first character and the ones
after it. Occurrences are found from the left and do not overlap. -/
def splitAtText (first : Char) (more : List Char) (text : List Char) : List (List Char) :=
  match text with
  | [] => [[]]
  | c :: rest =>
    if (first :: more).isPrefixOf (c :: rest) then
      [] :: splitAtText first more (rest.drop more.length)
    else
      match splitAtText first more rest with
      | [] => [[c]]
      | segment :: segments => (c :: segment) :: segments
termination_by text.length
decreasing_by
  · simp only [List.length_drop, List.length_cons]
    omega
  · simp

def segments (separator text : List Char) : List (List Char) :=
  match separator with
  | [] => [text]
  | first :: more => splitAtText first more text

def replaceText (pattern replacement text : List Char) : List Char :=
  replacement.intercalate (segments pattern text)

def escapeMarkup (c : Char) : List Char :=
  match c with
  | '&' => ['&', 'a', 'm', 'p', ';']
  | '<' => ['&', 'l', 't', ';']
  | '>' => ['&', 'g', 't', ';']
  | '\'' => ['&', 'a', 'p', 'o', 's', ';']
  | '"' => ['&', 'q', 'u', 'o', 't', ';']
  | c => [c]

def escapeText (text : List Char) : List Char := text.flatMap escapeMarkup

def upperHexChar (n : Nat) : Char :=
  if n < 10 then .ofNat ('0'.toNat + n) else .ofNat ('A'.toNat + n - 10)

def escapeByte (byte : UInt8) : List Char :=
  ['%', upperHexChar (byte.toNat / 16), upperHexChar (byte.toNat % 16)]

def isUnreserved (byte : UInt8) : Bool :=
  let c := Char.ofNat byte.toNat
  byte < 128 && (c.isAlphanum || c == '-' || c == '_' || c == '.' || c == '~')

def percentByte (byte : UInt8) : List Char :=
  if isUnreserved byte then [.ofNat byte.toNat] else escapeByte byte

def percentEncode (text : List Char) : List Char :=
  (text.flatMap String.utf8EncodeChar).flatMap percentByte

def formEncode (text : List Char) : List Char :=
  replaceText ['~'] ['%', '7', 'E']
    (replaceText ['%', '2', 'A'] ['*'] (replaceText ['%', '2', '0'] ['+'] (percentEncode text)))

end PagedSearch
