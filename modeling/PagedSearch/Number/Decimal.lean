import PagedSearch.Number.Binary

/-!
# Shortest decimals

A binary number is written with the fewest digits that read back as the same number, and among
those with the digits nearest to it. The digits are chosen once; layouts then place the point.
-/

namespace PagedSearch

structure Decimal where
  digits : Nat
  exponent : Int
deriving DecidableEq

inductive TieRule where
  | up
  | toEven

namespace Decimal

def digitChars (d : Decimal) : List Char := Nat.toDigits 10 d.digits

def leadExponent (d : Decimal) : Int := d.exponent + d.digitChars.length - 1

def stripZeros : Nat → Decimal → Decimal
  | 0, d => d
  | n + 1, d =>
    if d.digits % 10 = 0 && d.digits ≠ 0 then stripZeros n ⟨d.digits / 10, d.exponent + 1⟩ else d

/-- The numbers that round to one number: those between two bounds, given with the number itself as
multiples of a power of two. The bounds belong to it when its significand is even. -/
structure Interval where
  lower : Nat
  value : Nat
  upper : Nat
  exponent : Int
  closed : Bool

namespace Interval

/-- The interval of a finite number. It is narrower below a power of two, where the numbers are
twice as dense. -/
def ofFinite (f : BinaryFormat) (significand : Nat) (exponent : Int) : Interval where
  lower :=
    4 * significand - if significand = f.binade && f.leastExponent < exponent then 1 else 2
  value := 4 * significand
  upper := 4 * significand + 2
  exponent := exponent - 2
  closed := significand % 2 == 0

def factors (i : Interval) (ten : Int) : Nat × Nat :=
  (Nat.pow 2 i.exponent.toNat * Nat.pow 10 (-ten).toNat,
    Nat.pow 2 (-i.exponent).toNat * Nat.pow 10 ten.toNat)

def nearest? (i : Interval) (tie : TieRule) (ten : Int) : Option Decimal :=
  let (binary, decimal) := i.factors ten
  let value := i.value * binary
  let floor := value / decimal
  let inside (n : Nat) : Bool :=
    if i.closed then i.lower * binary ≤ n * decimal && n * decimal ≤ i.upper * binary
    else i.lower * binary < n * decimal && n * decimal < i.upper * binary
  let below := inside floor
  let above := inside (floor + 1)
  let twice := 2 * (value % decimal)
  let upward := decimal < twice || (twice == decimal &&
    match tie with
    | .up => true
    | .toEven => floor % 2 == 1)
  if below && !(above && upward) then some ⟨floor, ten⟩
  else if above then some ⟨floor + 1, ten⟩
  else none

def search (i : Interval) (tie : TieRule) : Nat → Int → Decimal
  | 0, ten => ⟨i.value * (i.factors ten).1 / (i.factors ten).2, ten⟩
  | grids + 1, ten => (i.nearest? tie ten).getD (i.search tie grids (ten - 1))

def leadExponent (i : Interval) : Int :=
  let num := i.value * Nat.pow 2 i.exponent.toNat
  let den := Nat.pow 2 (-i.exponent).toNat
  let guess : Int := (Nat.toDigits 10 num).length - (Nat.toDigits 10 den).length
  if Nat.pow 10 guess.toNat * den ≤ num * Nat.pow 10 (-guess).toNat then guess else guess - 1

end Interval

/-- Every number of either format has a shortest decimal of at most this many digits. -/
def digitLimit : Nat := 17

def shortest (f : BinaryFormat) (tie : TieRule) (significand : Nat) (exponent : Int) : Decimal :=
  let i := Interval.ofFinite f significand exponent
  stripZeros digitLimit (i.search tie digitLimit i.leadExponent)

def zeros (n : Nat) : List Char := List.replicate n '0'

def split (d : Decimal) : List Char × List Char :=
  let digits := d.digitChars
  if 0 ≤ d.exponent then (digits ++ zeros d.exponent.toNat, [])
  else
    let places := (-d.exponent).toNat
    if places < digits.length then
      (digits.take (digits.length - places), digits.drop (digits.length - places))
    else (['0'], zeros (places - digits.length) ++ digits)

/-- Positional notation, with a point only where fraction digits follow. -/
def positional (d : Decimal) : List Char :=
  match d.split with
  | (whole, []) => whole
  | (whole, fraction) => whole ++ '.' :: fraction

def pointed (d : Decimal) : List Char :=
  match d.split with
  | (whole, []) => whole ++ ['.', '0']
  | (whole, fraction) => whole ++ '.' :: fraction

def mantissa (d : Decimal) : List Char :=
  match d.digitChars with
  | [] => []
  | [digit] => [digit]
  | digit :: rest => digit :: '.' :: rest

end Decimal

namespace Binary

variable {f : BinaryFormat}

def shortest (x : Binary f) (tie : TieRule) : Decimal :=
  match x.extent with
  | .finite 0 _ => ⟨0, 0⟩
  | .finite m e => Decimal.shortest f tie m e
  | _ => ⟨0, 0⟩

def signChars (x : Binary f) : List Char := if x.negative then ['-'] else []

def plainText (x : Binary f) : String :=
  if x.isNaN then "NaN"
  else .ofList (x.signChars ++ if x.isInfinite then "inf".toList else (x.shortest .up).positional)

end Binary

end PagedSearch
