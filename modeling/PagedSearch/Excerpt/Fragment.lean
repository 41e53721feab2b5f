import PagedSearch.Text.Analysis
import PagedSearch.Query.Basic

/-!
# Highlighting

A text is cut into fragments between tokens. Each fragment shows the tokens whose text is a query
term between two tags and is scored by the number of distinct terms in it; the best fragments make
up the highlight.
-/

namespace PagedSearch

structure TagPair where
  before : String
  after : String
deriving DecidableEq

namespace TagPair

def standard : TagPair := ⟨"<span class=\"highlight\">", "</span>"⟩

/-- The marks that stand for the tags until the text around them has been escaped. -/
def marks : TagPair := ⟨"!!!SNIPPETBEGIN", "!!!SNIPPETEND"⟩

def around (tags : TagPair) (text : List Char) : List Char :=
  tags.before.toList ++ text ++ tags.after.toList

end TagPair

/-- A token where it stands in a text: the characters between the token before it and itself, its
surface form, and its analyzed text. -/
structure PlacedToken where
  gap : List Char
  surface : List Char
  text : String
deriving DecidableEq

/-- Splits a text behind a number of bytes, if a character ends there. -/
def splitBytes? : Nat → List Char → Option (List Char × List Char)
  | 0, text => some ([], text)
  | _ + 1, [] => none
  | n + 1, c :: rest =>
    if c.utf8Size ≤ n + 1 then
      (splitBytes? (n + 1 - c.utf8Size) rest).map fun (before, after) => (c :: before, after)
    else
      none
termination_by _ text => text

/-- The gap and the surface form of a token in the text from an offset on, and the text after it.
A token that begins before the offset, ends before it begins, or does not fall on characters has
no place. -/
def Token.place? (offset : Nat) (t : Token) (text : List Char) :
    Option (PlacedToken × List Char) := do
  if t.start < offset || t.stop < t.start then none
  let (gap, rest) ← splitBytes? (t.start - offset) text
  let (surface, rest) ← splitBytes? (t.stop - t.start) rest
  return (⟨gap, surface, t.text⟩, rest)

/-- Places tokens one after the other in the text from an offset on, skipping those that have no
place, and gives the text after the last of them. -/
def placeTokens (offset : Nat) (text : List Char) : List Token → List PlacedToken × List Char
  | [] => ([], text)
  | t :: rest =>
    match t.place? offset text with
    | some (placed, after) =>
      let (others, tail) := placeTokens t.stop after rest
      (placed :: others, tail)
    | none => placeTokens offset text rest

namespace PlacedToken

def chars (t : PlacedToken) : List Char := t.gap ++ t.surface

end PlacedToken

/-- Cuts tokens into fragments, none of them empty. A token begins a new fragment if the size is
not zero and the current one, which holds some tokens already, would become longer. -/
def cutTokens (size : Nat) (current : List PlacedToken) :
    List PlacedToken → List (List PlacedToken)
  | [] => if current.isEmpty then [] else [current]
  | t :: rest =>
    if 0 < size && !current.isEmpty &&
        size < ((current ++ [t]).flatMap PlacedToken.chars).length then
      current :: cutTokens size [t] rest
    else
      cutTokens size (current ++ [t]) rest

/-- A fragment of a text with matched tokens tagged. The offsets are byte offsets, and the score
is the number of distinct terms, rounded to single precision. -/
structure Fragment where
  text : List Char
  start : Nat
  stop : Nat
  score : Binary32
deriving DecidableEq

namespace Fragment

/-- The score as a natural. -/
def rating (f : Fragment) : Nat := (f.score.toInt?.getD 0).toNat

def compareRank (f g : Fragment) : Ordering :=
  (g.score.compareTotal f.score).then (compare f.start g.start)

end Fragment

namespace PlacedToken

def tagged (tags : TagPair) (terms : List String) (t : PlacedToken) : List Char :=
  t.gap ++ if terms.contains t.text then tags.around t.surface else t.surface

end PlacedToken

def termsAmong (terms : List String) (tokens : List PlacedToken) : List String :=
  ((tokens.map PlacedToken.text).filter terms.contains).eraseDups

def fragmentsFrom (tags : TagPair) (terms : List String) (tail : List Char) (offset : Nat) :
    List (List PlacedToken) → List Fragment
  | [] => []
  | tokens :: rest =>
    let tail' := if rest.isEmpty then tail else []
    let stop := offset + byteSize (tokens.flatMap PlacedToken.chars ++ tail')
    { text := tokens.flatMap (·.tagged tags terms) ++ tail'
      start := offset
      stop := stop
      score := .ofNat (termsAmong terms tokens).length } :: fragmentsFrom tags terms tail stop rest

def fragments (tags : TagPair) (size : Nat) (tokens : List Token) (text : String)
    (terms : List String) : List Fragment :=
  let (placed, tail) := placeTokens 0 text.toList tokens
  fragmentsFrom tags terms tail 0 (cutTokens size [] placed)

/-- The best fragments of a text for the terms that a query uses in a field, at most the given
number. Fragments without a term are left out. -/
def topFragments (tags : TagPair) (size : Nat) (tokens : List Token) (text : String)
    (query : Query) (field : String) (count : Nat) : List Fragment :=
  let scored := (fragments tags size tokens text (query.termsFor field)).filter (·.score.isPositive)
  (scored.mergeSort fun f g => (f.compareRank g).isLE).take count

def highlight (tags : TagPair) (size : Nat) (tokens : List Token) (text : String)
    (query : Query) (field : String) (count : Nat) (separator : List Char) : List Char :=
  separator.intercalate ((topFragments tags size tokens text query field count).map Fragment.text)

end PagedSearch
