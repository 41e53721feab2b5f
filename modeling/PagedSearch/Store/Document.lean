import PagedSearch.Json.Value
import PagedSearch.Unicode.Case
import PagedSearch.Unicode.Basic

/-!
# Documents

A document is a sequence of stored fields. Fields keep their order, and a name may occur more than
once. Every value has a text, which is what gets indexed, and may be read as an integer, a number or
a truth value.
-/

namespace PagedSearch

inductive StoredValue where
  | boolean (b : Bool)
  | integer (i : Int64)
  | float (x : Binary64)
  | text (s : String)
deriving DecidableEq

def clampWord (i : Int) : Int64 :=
  .ofInt (max Int64.minValue.toInt (min Int64.maxValue.toInt i))

namespace StoredValue

def display : StoredValue → String
  | boolean true => "true"
  | boolean false => "false"
  | integer i => .ofList (Json.integerChars i.toInt)
  | float x => x.plainText
  | text s => s

def text? : StoredValue → Option String
  | text s => some s
  | _ => none

/-- The value read as a signed word. A float without fraction is taken to the nearest word, text is
read as a decimal integer. -/
def integer? : StoredValue → Option Int64
  | boolean _ => none
  | integer i => some i
  | float x => x.toInt?.map clampWord
  | text s => (readWord? 64 (Unicode.trim s.toList)).map .ofInt

def number? : StoredValue → Option Binary64
  | boolean _ => none
  | integer i => some (.ofInt i.toInt)
  | float x => some x
  | text s => readBinary? .double (Unicode.trim s.toList)

def truth? : StoredValue → Option Bool
  | boolean b => some b
  | integer i => some (i != 0)
  | float _ => none
  | text s =>
    match Unicode.lowercaseString s with
    | "true" | "yes" | "1" => some true
    | "false" | "no" | "0" => some false
    | _ => none

def toJson : StoredValue → Json
  | boolean b => .bool b
  | integer i => .integer i.toInt
  | float x => .double x
  | text s => .text s

/-- The value of an integer: a float if it is no signed word. -/
def ofInt (i : Int) : StoredValue :=
  if Int64.minValue.toInt ≤ i && i ≤ Int64.maxValue.toInt then integer (.ofInt i)
  else float (.ofInt i)

def ofScalar? : Json → Option StoredValue
  | .bool b => some (boolean b)
  | .integer i => some (ofInt i)
  | .single x => some (float x.convert)
  | .double x => some (float x)
  | .text s => some (text s)
  | .null | .list _ | .object _ => none

def read? (source : List Char) : Option StoredValue := (Json.read? source).bind ofScalar?

end StoredValue

structure StoredField where
  name : String
  value : StoredValue
deriving DecidableEq

structure Document where
  fields : List StoredField
deriving DecidableEq

namespace Document

def values (d : Document) (name : String) : List StoredValue :=
  (d.fields.filter (·.name == name)).map StoredField.value

def value? (d : Document) (name : String) : Option StoredValue :=
  (d.fields.find? (·.name == name)).map StoredField.value

def has (d : Document) (name : String) : Bool := d.fields.any (·.name == name)

def size (d : Document) : Nat := d.fields.length

def isEmpty (d : Document) : Bool := d.fields.isEmpty

def toJson (d : Document) : Json :=
  .object [("fields", .list (d.fields.map fun field =>
    .object [("name", .text field.name), ("value", field.value.toJson)]))]

end Document

end PagedSearch
