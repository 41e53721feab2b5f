/-!
# Binary floating point

A number of a binary interchange format is its bit pattern: a sign, an exponent field and a
fraction. Arithmetic is exact on the represented values and rounds once, to the nearest number,
a tie going to the even one. Two numbers are the same only if their patterns are.
-/

namespace PagedSearch

/-- A binary interchange format: significant bits, counting the leading one that is not stored,
and bits of the exponent field. -/
structure BinaryFormat where
  precision : Nat
  exponentBits : Nat

namespace BinaryFormat

def single : BinaryFormat := ⟨24, 8⟩
def double : BinaryFormat := ⟨53, 11⟩

def width (f : BinaryFormat) : Nat := f.precision + f.exponentBits

def binade (f : BinaryFormat) : Nat := Nat.pow 2 (f.precision - 1)

def leastExponent (f : BinaryFormat) : Int := 3 - Nat.pow 2 (f.exponentBits - 1) - f.precision

/-- The pattern of infinity. Numbers lie below it, not-a-number patterns above. -/
def infinity (f : BinaryFormat) : Nat := (Nat.pow 2 f.exponentBits - 1) * f.binade

def quietBit (f : BinaryFormat) : Nat := Nat.pow 2 (f.precision - 2)

end BinaryFormat

structure Binary (f : BinaryFormat) where
  bits : BitVec f.width
deriving DecidableEq

abbrev Binary32 := Binary .single
abbrev Binary64 := Binary .double

/-- What a pattern stands for, apart from its sign. A finite value is a multiple of a power of
two. -/
inductive Extent where
  | nan
  | infinite
  | finite (significand : Nat) (exponent : Int)

/-- The quotient of two naturals rounded to the nearest natural, a tie going to the even one. -/
def roundedQuotient (num den : Nat) : Nat :=
  let floor := num / den
  let twice := 2 * (num % den)
  if den < twice || (twice == den && floor % 2 == 1) then floor + 1 else floor

def scaledQuotient (num den : Nat) (exponent : Int) : Nat × Nat :=
  if 0 ≤ exponent then (num, den * Nat.pow 2 exponent.toNat)
  else (num * Nat.pow 2 (-exponent).toNat, den)

/-- The pattern without sign that is nearest to a quotient of naturals. Patterns ascend with the
values they stand for, so a significand that rounds up to the next power of two carries into the
exponent field, and one that passes the last number becomes infinity. -/
def nearestPattern (f : BinaryFormat) (num den : Nat) : Nat :=
  if num = 0 then
    0
  else
    let trial : Int := (num.log2 : Int) - den.log2 - f.precision
    let (n, d) := scaledQuotient num den trial
    let exponent := max f.leastExponent (if n / d < Nat.pow 2 f.precision then trial else trial + 1)
    let (n, d) := scaledQuotient num den exponent
    min f.infinity ((exponent - f.leastExponent).toNat * f.binade + roundedQuotient n d)

namespace Binary

variable {f : BinaryFormat}

def pattern (x : Binary f) : Nat := x.bits.toNat % Nat.pow 2 (f.width - 1)

def negative (x : Binary f) : Bool := x.bits.msb

def ofPattern (negative : Bool) (pattern : Nat) : Binary f :=
  ⟨.ofNat _ (pattern + if negative then Nat.pow 2 (f.width - 1) else 0)⟩

/-- What the pattern stands for. The lowest exponent field holds zero and the numbers too small
for a leading one. -/
def extent (x : Binary f) : Extent :=
  let field := x.pattern / f.binade
  let fraction := x.pattern % f.binade
  if x.pattern = f.infinity then .infinite
  else if f.infinity < x.pattern then .nan
  else if field = 0 then .finite fraction f.leastExponent
  else .finite (f.binade + fraction) (f.leastExponent + (field - 1 : Nat))

def isNaN (x : Binary f) : Bool := f.infinity < x.pattern

def isInfinite (x : Binary f) : Bool := x.pattern == f.infinity

def isFinite (x : Binary f) : Bool := x.pattern < f.infinity

def isZero (x : Binary f) : Bool := x.pattern == 0

/-- Whether the pattern is greater than zero. One that is no number is not. -/
def isPositive (x : Binary f) : Bool := !x.isNaN && !x.negative && !x.isZero

def zero (negative : Bool) : Binary f := ofPattern negative 0

def infinity (negative : Bool) : Binary f := ofPattern negative f.infinity

def nan (negative : Bool) : Binary f := ofPattern negative (f.infinity + f.quietBit)

instance : Inhabited (Binary f) := ⟨zero false⟩

def ofQuotient (negative : Bool) (num den : Nat) : Binary f :=
  ofPattern negative (nearestPattern f num den)

def ofScaled (negative : Bool) (significand : Nat) (exponent : Int) : Binary f :=
  if 0 ≤ exponent then ofQuotient negative (significand * Nat.pow 2 exponent.toNat) 1
  else ofQuotient negative significand (Nat.pow 2 (-exponent).toNat)

def ofInt (i : Int) : Binary f := ofQuotient (i < 0) i.natAbs 1

def ofNat (n : Nat) : Binary f := ofQuotient false n 1

instance (n : Nat) : OfNat (Binary f) n := ⟨ofNat n⟩

def decimalReach : Int := 400

/-- The number nearest to a multiple of a power of ten, with a sign. Scales out of reach of the
format are decided without computing the power. -/
def ofDecimal (negative : Bool) (significand : Nat) (exponent : Int) : Binary f :=
  let lead := exponent + (Nat.toDigits 10 significand).length
  if significand = 0 || lead < -decimalReach then zero negative
  else if decimalReach < lead then infinity negative
  else if 0 ≤ exponent then ofQuotient negative (significand * Nat.pow 10 exponent.toNat) 1
  else ofQuotient negative significand (Nat.pow 10 (-exponent).toNat)

/-- The result of an operation without a value, such as infinity minus infinity. -/
def invalid : Binary f := nan true

def quiet (x : Binary f) : Binary f :=
  ofPattern x.negative (x.pattern ||| f.quietBit)

protected def neg (x : Binary f) : Binary f := ofPattern (!x.negative) x.pattern

def signed (negative : Bool) (n : Nat) : Int := if negative then -(n : Int) else n

/-- Addition. An exact sum of zero is positive unless both operands are negative. Of two operands
that are no numbers the first is handed on. -/
protected def add (x y : Binary f) : Binary f :=
  match x.extent, y.extent with
  | .nan, _ => x.quiet
  | _, .nan => y.quiet
  | .infinite, .infinite => if x.negative == y.negative then x else invalid
  | .infinite, .finite .. => x
  | .finite .., .infinite => y
  | .finite m d, .finite n e =>
    let low := min d e
    let sum := signed x.negative (m * Nat.pow 2 (d - low).toNat) +
      signed y.negative (n * Nat.pow 2 (e - low).toNat)
    if sum = 0 then zero (x.negative && y.negative) else ofScaled (sum < 0) sum.natAbs low

protected def sub (x y : Binary f) : Binary f := x.add y.neg

protected def mul (x y : Binary f) : Binary f :=
  let sign := x.negative != y.negative
  match x.extent, y.extent with
  | .nan, _ => x.quiet
  | _, .nan => y.quiet
  | .infinite, _ => if y.isZero then invalid else infinity sign
  | _, .infinite => if x.isZero then invalid else infinity sign
  | .finite m d, .finite n e => ofScaled sign (m * n) (d + e)

protected def div (x y : Binary f) : Binary f :=
  let sign := x.negative != y.negative
  match x.extent, y.extent with
  | .nan, _ => x.quiet
  | _, .nan => y.quiet
  | .infinite, .infinite => invalid
  | .infinite, .finite .. => infinity sign
  | .finite .., .infinite => zero sign
  | .finite m d, .finite n e =>
    if n = 0 then (if m = 0 then invalid else infinity sign)
    else
      let (p, q) := scaledQuotient m n (e - d)
      ofQuotient sign p q

instance : Neg (Binary f) := ⟨Binary.neg⟩
instance : Add (Binary f) := ⟨Binary.add⟩
instance : Sub (Binary f) := ⟨Binary.sub⟩
instance : Mul (Binary f) := ⟨Binary.mul⟩
instance : Div (Binary f) := ⟨Binary.div⟩

def convert {g : BinaryFormat} (x : Binary f) : Binary g :=
  match x.extent with
  | .nan => nan x.negative
  | .infinite => infinity x.negative
  | .finite m e => ofScaled x.negative m e

/-- The place of a pattern in the total order: negative patterns before positive ones, each sign
from the far end inward or outward, with the not-a-number patterns beyond the infinities. -/
def orderKey (x : Binary f) : Int :=
  if x.negative then -(x.pattern : Int) - 1 else x.pattern

def compareTotal (x y : Binary f) : Ordering := compare x.orderKey y.orderKey

def toInt? (x : Binary f) : Option Int :=
  match x.extent with
  | .finite m e =>
    if 0 ≤ e then some (signed x.negative (m * Nat.pow 2 e.toNat))
    else if m % Nat.pow 2 (-e).toNat = 0 then
      some (signed x.negative (m / Nat.pow 2 (-e).toNat))
    else none
  | _ => none

end Binary

end PagedSearch
