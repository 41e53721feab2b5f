import PagedSearch.Number.Binary

/-! # Reading numbers -/

namespace PagedSearch

def isDigit (c : Char) : Bool := '0' ≤ c && c ≤ '9'

def digitsValue (digits : List Char) : Nat :=
  digits.foldl (fun value c => 10 * value + (c.toNat - '0'.toNat)) 0

def readDigits? (text : List Char) : Option Nat :=
  if text.isEmpty || !text.all isDigit then none else some (digitsValue text)

def splitSign : List Char → Bool × List Char
  | '-' :: rest => (true, rest)
  | '+' :: rest => (false, rest)
  | text => (false, text)

def readInt? (text : List Char) : Option Int :=
  let (negative, digits) := splitSign text
  (readDigits? digits).map fun n => if negative then -(n : Int) else n

/-- The integer written by a text, if it lies within the range of a signed word. -/
def readWord? (bits : Nat) (text : List Char) : Option Int :=
  (readInt? text).filter fun i => -(Nat.pow 2 (bits - 1) : Int) ≤ i && i < Nat.pow 2 (bits - 1)

def readNatural? (bits : Nat) (text : List Char) : Option Nat :=
  let digits :=
    match text with
    | '+' :: rest => rest
    | _ => text
  (readDigits? digits).filter (· < Nat.pow 2 bits)

/-- An exponent mark with its exponent; nothing stands for exponent zero. -/
def readExponent? : List Char → Option Int
  | [] => some 0
  | c :: rest => if c = 'e' || c = 'E' then readInt? rest else none

def readDecimal? (f : BinaryFormat) (negative : Bool) (text : List Char) : Option (Binary f) := do
  let whole := text.takeWhile isDigit
  let (fraction, rest) :=
    match text.dropWhile isDigit with
    | '.' :: rest => (rest.takeWhile isDigit, rest.dropWhile isDigit)
    | rest => ([], rest)
  if whole.isEmpty && fraction.isEmpty then none
  let exponent ← readExponent? rest
  return .ofDecimal negative (digitsValue (whole ++ fraction)) (exponent - fraction.length)

def readBinary? (f : BinaryFormat) (text : List Char) : Option (Binary f) :=
  let (negative, rest) := splitSign text
  match String.ofList (rest.map Char.toLower) with
  | "inf" | "infinity" => some (.infinity negative)
  | "nan" => some (.nan negative)
  | _ => readDecimal? f negative rest

end PagedSearch
