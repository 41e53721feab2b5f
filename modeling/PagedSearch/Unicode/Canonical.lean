import PagedSearch.Unicode.CanonicalMapping
import PagedSearch.Unicode.Mark

/-!
# Canonical decomposition and composition

Equivalent texts share one decomposed form, in which every mapping is applied and marks stand in
canonical order. The composed form joins each starter again with the marks that follow it.
-/

namespace PagedSearch.Unicode

namespace Hangul

def syllableBase : Nat := 0xAC00
def leadBase : Nat := 0x1100
def vowelBase : Nat := 0x1161
def tailBase : Nat := 0x11A7
def leadCount : Nat := 19
def vowelCount : Nat := 21
def tailCount : Nat := 28

def isSyllable (code : Nat) : Bool :=
  syllableBase ≤ code && code < syllableBase + leadCount * vowelCount * tailCount

def parts (code : Nat) : List Nat :=
  let index := code - syllableBase
  let lead := leadBase + index / (vowelCount * tailCount)
  let vowel := vowelBase + index % (vowelCount * tailCount) / tailCount
  let tail := index % tailCount
  if tail = 0 then [lead, vowel] else [lead, vowel, tailBase + tail]

def join? (first second : Nat) : Option Nat :=
  if leadBase ≤ first && first < leadBase + leadCount &&
      vowelBase ≤ second && second < vowelBase + vowelCount then
    some (syllableBase +
      ((first - leadBase) * vowelCount + (second - vowelBase)) * tailCount)
  else if isSyllable first && (first - syllableBase) % tailCount == 0 &&
      tailBase < second && second < tailBase + tailCount then
    some (first + (second - tailBase))
  else
    none

end Hangul

/-- No chain of canonical mappings has more steps than this. -/
def mappingDepth : Nat := 4

/-- Applies canonical mappings to a code point, at most the given number in a chain. No code
point below U+00C0 has a mapping. -/
def decomposeCode : Nat → Nat → List Nat
  | 0, code => [code]
  | steps + 1, code =>
    if code < 0xC0 then
      [code]
    else if Hangul.isSyllable code then
      Hangul.parts code
    else
      match canonicalPairs.lookup code with
      | some (first, second) => decomposeCode steps first ++ decomposeCode steps second
      | none =>
        match canonicalSingles.lookup code with
        | some other => decomposeCode steps other
        | none => [code]

def decomposition (c : Char) : List Char := (decomposeCode mappingDepth c.toNat).map .ofNat

/-- Places a character before the marks that may not precede it: those of its own class or a
higher one. Nothing moves across a starter. -/
def insertMark (c : Char) : List Char → List Char
  | [] => [c]
  | mark :: rest =>
    if combiningClass mark ≠ 0 && combiningClass mark < combiningClass c then
      mark :: insertMark c rest
    else
      c :: mark :: rest

def orderMarks : List Char → List Char
  | [] => []
  | c :: rest => insertMark c (orderMarks rest)

def decomposed (text : List Char) : List Char := orderMarks (text.flatMap decomposition)

/-- The character equivalent to a pair, if composition may produce it. No mapping has a second
part below U+0300. -/
def composite? (first second : Char) : Option Char :=
  if second.toNat < 0x300 then
    none
  else
    match Hangul.join? first.toNat second.toNat with
    | some syllable => some (.ofNat syllable)
    | none =>
      match canonicalPairs.find? fun (_, pair) => pair == (first.toNat, second.toNat) with
      | some (code, _) =>
        if inRanges compositionExclusions code then none else some (.ofNat code)
      | none => none

/-- Composes a text that follows a starter and the marks, latest first, that stayed apart from it.
A character is blocked from the starter when a mark of the same or a higher class stands
between them. -/
def composeFrom (starter : Char) (marks : List Char) : List Char → List Char
  | [] => starter :: marks.reverse
  | c :: rest =>
    let reaches :=
      match marks with
      | [] => true
      | mark :: _ => combiningClass mark < combiningClass c
    match if reaches then composite? starter c else none with
    | some joined => composeFrom joined marks rest
    | none =>
      if combiningClass c = 0 then starter :: (marks.reverse ++ composeFrom c [] rest)
      else composeFrom starter (c :: marks) rest

/-- Composes a decomposed text. Marks before the first starter stand alone. -/
def compose : List Char → List Char
  | [] => []
  | c :: rest => if combiningClass c = 0 then composeFrom c [] rest else c :: compose rest

def composed (text : List Char) : List Char := compose (decomposed text)

end PagedSearch.Unicode
