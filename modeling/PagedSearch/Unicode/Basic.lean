/-!
# Properties of characters

A character property is stored as an ascending list of the code points that have it. Contiguous
properties list the two ends of each range. Letter case alternates along many scripts, so case
properties list strided runs instead. White space is trimmed off both ends of a text.
-/

namespace PagedSearch.Unicode

/-- Membership in an ascending list of ranges, each given by its first and last code point. -/
def inRanges : List (Nat × Nat) → Nat → Bool
  | [], _ => false
  | (first, last) :: rest, code => first ≤ code && (code ≤ last || inRanges rest code)

structure CodeRun where
  first : Nat
  last : Nat
  stride : Nat

namespace CodeRun

def contains (run : CodeRun) (code : Nat) : Bool :=
  run.first ≤ code && code ≤ run.last && (code - run.first) % run.stride == 0

end CodeRun

def inRuns : List CodeRun → Nat → Bool
  | [], _ => false
  | run :: rest, code => run.first ≤ code && (run.contains code || inRuns rest code)

def spaceRanges : List (Nat × Nat) := [
  (0x9, 0xD), (0x20, 0x20), (0x85, 0x85), (0xA0, 0xA0), (0x1680, 0x1680), (0x2000, 0x200A),
  (0x2028, 0x2029), (0x202F, 0x202F), (0x205F, 0x205F), (0x3000, 0x3000)]

def isSpace (c : Char) : Bool := inRanges spaceRanges c.toNat

def trimStart (text : List Char) : List Char := text.dropWhile isSpace

def trimEnd (text : List Char) : List Char := (text.reverse.dropWhile isSpace).reverse

def trim (text : List Char) : List Char := trimEnd (trimStart text)

def trimString (text : String) : String := .ofList (trim text.toList)

def isBlank (text : List Char) : Bool := text.all isSpace

end PagedSearch.Unicode
