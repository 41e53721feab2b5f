import PagedSearch.Order.ValueComparator

/-!
# Sort criteria

A specification is a list of criteria in order of priority; the empty one means relevance. Texts
are sorted by the rules of a locale, which names a language and, if need be, a country and a
variant of it.
-/

namespace PagedSearch

structure Locale where
  language : String
  country : Option String
  variant : Option String
deriving DecidableEq

namespace Locale

def display (l : Locale) : String :=
  "-".intercalate ([l.language] ++ l.country.toList ++ l.variant.toList)

end Locale

inductive ValueType where
  | int
  | short
  | long
  | float
  | double
  | byte
  | string
  | stringValue
deriving DecidableEq

namespace ValueType

def name : ValueType → String
  | int => "INT"
  | short => "SHORT"
  | long => "LONG"
  | float => "FLOAT"
  | double => "DOUBLE"
  | byte => "BYTE"
  | string => "STRING"
  | stringValue => "STRING_VAL"

def all : List ValueType := [int, short, long, float, double, byte, string, stringValue]

def ofName? (name : String) : Option ValueType := all.find? (·.name == name)

end ValueType

structure CustomOrder where
  identifier : String
  parameters : List String
  comparator : ValueComparator
deriving DecidableEq

inductive CriterionKind where
  | score
  | doc
  | typed (type : ValueType)
  | collated (locale : Locale)
  | custom (order : CustomOrder)
deriving DecidableEq

namespace CriterionKind

def needsField : CriterionKind → Bool
  | score | doc => false
  | typed _ | collated _ | custom _ => true

end CriterionKind

/-- One sort key. The natural order is best first for scores and ascending for all else; the flag
turns it around. -/
structure Criterion where
  field : String
  kind : CriterionKind
  reverse : Bool
deriving DecidableEq

abbrev SortSpec := List Criterion

namespace SortSpec

def unknownField? (spec : SortSpec) (known : List String) : Option String :=
  (spec.find? fun criterion => !known.contains criterion.field).map Criterion.field

def needsFields (spec : SortSpec) : Bool := spec.any (·.kind.needsField)

end SortSpec

end PagedSearch
