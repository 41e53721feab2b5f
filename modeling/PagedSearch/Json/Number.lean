import PagedSearch.Number.Decimal
import PagedSearch.Number.Reading

/-!
# JSON numbers

A number literal without fraction and exponent is an integer while it fits into a word. Any other
literal is a double: its significand is gathered in 64 bits and then scaled by powers of ten, each
step rounded. A literal beyond the largest double has no value.
-/

namespace PagedSearch

structure JsonLiteral where
  negative : Bool
  whole : List Char
  fraction : List Char
  exponentNegative : Bool
  exponent : List Char
deriving DecidableEq

inductive JsonNumber where
  | integer (i : Int)
  | real (x : Binary64)
deriving DecidableEq

namespace JsonLiteral

def isLiteralChar (c : Char) : Bool :=
  isDigit c || c == '-' || c == '+' || c == '.' || c == 'e' || c == 'E'

def readExponent? : List Char → Option (Bool × List Char)
  | [] => some (false, [])
  | mark :: rest =>
    let (negative, digits) := splitSign rest
    if (mark == 'e' || mark == 'E') && !digits.isEmpty && digits.all isDigit then
      some (negative, digits)
    else none

def readFraction? : List Char → Option (List Char × List Char)
  | '.' :: rest =>
    let digits := rest.takeWhile isDigit
    if digits.isEmpty then none else some (digits, rest.dropWhile isDigit)
  | text => some ([], text)

/-- The parts of a literal. Only zero itself begins with the digit zero. -/
def read? (text : List Char) : Option JsonLiteral := do
  let (negative, text) :=
    match text with
    | '-' :: rest => (true, rest)
    | _ => (false, text)
  let whole := text.takeWhile isDigit
  if whole.isEmpty || (whole.head? == some '0' && whole.length ≠ 1) then none
  let (fraction, rest) ← readFraction? (text.dropWhile isDigit)
  let (exponentNegative, exponent) ← readExponent? rest
  return { negative, whole, fraction, exponentNegative, exponent }

def wordBound : Nat := Nat.pow 2 64

/-- Appends digits to a significand while it stays a word. From the first digit that would pass
the bound on, digits are left over. -/
def fill (significand : Nat) : List Char → Nat × List Char
  | [] => (significand, [])
  | c :: rest =>
    let next := 10 * significand + (c.toNat - '0'.toNat)
    if next < wordBound then fill next rest else (significand, c :: rest)

def scaleLimit : Nat := 308

def powerOfTen (n : Nat) : Binary64 := .ofDecimal false 1 n

def scaleDown (x : Binary64) (n : Nat) : Binary64 :=
  if n ≤ scaleLimit then x / powerOfTen n
  else if x.isZero then x
  else scaleDown (x / powerOfTen scaleLimit) (n - scaleLimit)
termination_by n
decreasing_by simp only [scaleLimit] at *; omega

def scale? (significand : Nat) (exponent : Int) : Option Binary64 :=
  let x := .ofNat significand
  if exponent < 0 then some (scaleDown x exponent.natAbs)
  else if x.isZero then some x
  else if exponent ≤ scaleLimit then
    let y := x * powerOfTen exponent.toNat
    if y.isInfinite then none else some y
  else none

def real? (l : JsonLiteral) : Option Binary64 := do
  let (head, leftOver) := fill 0 l.whole
  let (significand, ignored) := fill head l.fraction
  let shift : Int := leftOver.length - (l.fraction.length - ignored.length : Nat)
  let exponent : Int := digitsValue l.exponent
  let x ← scale? significand (shift + if l.exponentNegative then -exponent else exponent)
  return if l.negative then -x else x

/-- The value of a literal. Negative zero is a double, and so is a negative integer beyond the
range of a signed word. -/
def number? (l : JsonLiteral) : Option JsonNumber :=
  let n := digitsValue l.whole
  let integral := l.fraction.isEmpty && l.exponent.isEmpty
  if integral && !l.negative && n < wordBound then some (.integer n)
  else if integral && l.negative && 0 < n && n ≤ wordBound / 2 then some (.integer (-n))
  else l.real?.map .real

end JsonLiteral

namespace JsonNumber

/-- The nearest number of a format. An integer is rounded to it at once, not through a double. -/
def toBinary {f : BinaryFormat} : JsonNumber → Binary f
  | integer i => .ofInt i
  | real x => x.convert

end JsonNumber

structure JsonReach where
  least : Int
  most : Int

def JsonReach.single : JsonReach := ⟨-6, 12⟩
def JsonReach.double : JsonReach := ⟨-5, 15⟩

/-- The text of a binary number: positional with a fraction digit within reach, else with an
exponent that carries its sign. A value that is no finite number is written as null. -/
def Binary.jsonText {f : BinaryFormat} (x : Binary f) (reach : JsonReach) : List Char :=
  if x.isFinite then
    let d := x.shortest .toEven
    let lead := d.leadExponent
    x.signChars ++
      if x.isZero || (reach.least ≤ lead && lead ≤ reach.most) then d.pointed
      else d.mantissa ++ 'e' :: (if lead < 0 then '-' else '+') :: Nat.toDigits 10 lead.natAbs
  else ['n', 'u', 'l', 'l']

end PagedSearch
