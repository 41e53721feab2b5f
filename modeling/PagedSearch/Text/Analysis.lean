import PagedSearch.Unicode.Case
import PagedSearch.Unicode.WordCharacter

/-!
# Analysis

A token is a unit of text with its rank and the bytes it was read from. The words of a text are its
maximal runs of word characters; all between them is skipped. An analyzer turns text into tokens.
Documents and query terms pass through the same analyzer, so that the two sides meet.
-/

namespace PagedSearch

/-- A unit of analyzed text. The offsets are byte offsets into the text it was read from. -/
structure Token where
  text : String
  position : Nat
  start : Nat
  stop : Nat
deriving DecidableEq

namespace Token

def ofText (text : String) (position : Nat) : Token := ⟨text, position, 0, 0⟩

def size (t : Token) : Nat := t.text.utf8ByteSize

def isEmpty (t : Token) : Bool := t.text.isEmpty

/-- The token in lower case, still at the offsets of its surface form. Tokens without an uppercase
character are taken as they are. -/
def lowercase (t : Token) : Token :=
  if t.text.toList.any Unicode.isUppercase then
    { t with text := Unicode.lowercaseString t.text }
  else
    t

end Token

def byteSize : List Char → Nat
  | [] => 0
  | c :: rest => c.utf8Size + byteSize rest

structure WordSpan where
  start : Nat
  chars : List Char
deriving DecidableEq

namespace WordSpan

def stop (w : WordSpan) : Nat := w.start + byteSize w.chars

def toToken (position : Nat) (w : WordSpan) : Token := ⟨.ofList w.chars, position, w.start, w.stop⟩

end WordSpan

def wordSpans (offset : Nat) (text : List Char) : List WordSpan :=
  match text with
  | [] => []
  | c :: rest =>
    if Unicode.isWordChar c then
      let word := c :: rest.takeWhile Unicode.isWordChar
      ⟨offset, word⟩ ::
        wordSpans (offset + byteSize word) (rest.dropWhile Unicode.isWordChar)
    else
      wordSpans (offset + c.utf8Size) rest
termination_by text.length
decreasing_by
  · have := (List.dropWhile_sublist Unicode.isWordChar (l := rest)).length_le
    simp only [List.length_cons]
    omega
  · simp

def tokenize (text : String) : List Token :=
  (wordSpans 0 text.toList).mapIdx WordSpan.toToken

inductive Analyzer where
  | standard
  | plain
deriving DecidableEq

namespace Analyzer

def name : Analyzer → String
  | standard => "standard"
  | plain => "pipeline"

def analyze (analyzer : Analyzer) (text : String) : List Token :=
  match analyzer with
  | standard => (tokenize text).map Token.lowercase
  | plain => tokenize text

def terms (analyzer : Analyzer) (text : String) : List String :=
  (analyzer.analyze text).map Token.text

end Analyzer

end PagedSearch
