import PagedSearch.Session.Basic
import PagedSearch.Order.TextKey
import PagedSearch.Order.Specification

/-! # The order of hits -/

namespace PagedSearch

inductive HitKey where
  | score (x : Binary32)
  | doc (id : Nat)
  | integer (i : Int)
  | real (x : Binary64)
  | text (s : Option String)
  | collated (key : Option TextKey)
  | custom (value : Option StoredValue)
deriving DecidableEq

structure KeyedHit where
  hit : Hit
  keys : List HitKey
deriving DecidableEq

inductive OrderFault where
  | index (fault : IndexFault)
  | comparator (identifier field : String) (fault : ValueFault)
  | strayCustom
  | mismatched
deriving DecidableEq

namespace OrderFault

def kind : OrderFault → ErrorKind
  | index _ => .indexUnavailable
  | comparator .. => .sortExecution
  | strayCustom | mismatched => .other

def detail : OrderFault → String
  | index fault => fault.detail
  | comparator identifier field fault =>
    "comparator '" ++ identifier ++ "' on field '" ++ field ++ "': " ++ fault.detail
  | strayCustom => "custom value for a non-custom criterion"
  | mismatched => "mismatched sort values"

end OrderFault

namespace ValueType

/-- The integer a value is sorted by: zero unless its text writes a word of the given size. -/
def integerOf (bits : Nat) (value : Option StoredValue) : Int :=
  (value.bind fun v => readWord? bits (Unicode.trim v.display.toList)).getD 0

/-- The number a value is sorted by: zero unless its text writes one. -/
def realOf (f : BinaryFormat) (value : Option StoredValue) : Binary f :=
  (value.bind fun v => readBinary? f (Unicode.trim v.display.toList)).getD 0

def keyOf (type : ValueType) (value : Option StoredValue) : HitKey :=
  match type with
  | int => .integer (integerOf 32 value)
  | short => .integer (integerOf 16 value)
  | long => .integer (integerOf 64 value)
  | byte => .integer (integerOf 8 value)
  | float => .real (realOf .single value).convert
  | double => .real (realOf .double value)
  | string | stringValue => .text (value.map StoredValue.display)

end ValueType

namespace Criterion

/-- The key of a hit with the given document. The first value of the field counts. -/
def keyOf (criterion : Criterion) (hit : Hit) (document : Document) : HitKey :=
  let value := document.value? criterion.field
  match criterion.kind with
  | .score => .score hit.score
  | .doc => .doc hit.id
  | .typed type => type.keyOf value
  | .collated locale =>
    .collated (value.map fun v => (Collation.ofLocale locale).key v.display)
  | .custom _ => .custom value

/-- The natural order of two keys. Scores run from best to worst. -/
def naturalOrder (criterion : Criterion) (a b : HitKey) : Except OrderFault Ordering :=
  match a, b with
  | .score x, .score y => .ok (y.compareTotal x)
  | .doc i, .doc j => .ok (compare i j)
  | .integer i, .integer j => .ok (compare i j)
  | .real x, .real y => .ok (x.compareTotal y)
  | .text s, .text t => .ok (compare s t)
  | .collated k, .collated l => .ok (compare k l)
  | .custom v, .custom w =>
    match criterion.kind with
    | .custom order =>
      (order.comparator.order v w).mapError
        (.comparator order.identifier criterion.field)
    | _ => .error .strayCustom
  | _, _ => .error .mismatched

def order (criterion : Criterion) (a b : HitKey) : Except OrderFault Ordering :=
  (criterion.naturalOrder a b).map fun o => if criterion.reverse then o.swap else o

end Criterion

namespace SortSpec

/-- A hit with its keys. Its document is fetched only if some criterion reads a field. -/
def keyedHit (spec : SortSpec) (session : Session) (hit : Hit) :
    Except OrderFault KeyedHit := do
  let document ←
    if spec.needsFields then (session.document hit.id).mapError .index else pure ⟨[]⟩
  return ⟨hit, spec.map fun criterion => criterion.keyOf hit document⟩

def compareKeys : SortSpec → List HitKey → List HitKey → Except OrderFault Ordering
  | criterion :: rest, a :: as, b :: bs =>
    match criterion.order a b with
    | .ok .eq => compareKeys rest as bs
    | result => result
  | _, _, _ => .ok .eq

def compareKeyed (spec : SortSpec) (a b : KeyedHit) : Except OrderFault Ordering :=
  (compareKeys spec a.keys b.keys).map fun o => o.then (compare a.hit.id b.hit.id)

end SortSpec

end PagedSearch
