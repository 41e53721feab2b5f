import PagedSearch.Order.Basic
import PagedSearch.Order.Registry

/-!
# Sort specification texts

Criteria are separated by semicolons. Each is a field name, an optional kind and an optional
reverse flag, separated by commas. Repeated separators count as one, and white space around any
part is dropped. A kind with a point in it is a comparator with parameters in parentheses; any
other is a name in capitals or else a locale.
-/

namespace PagedSearch

inductive SpecFault where
  | emptyCriterion
  | emptyField (criterion : String)
  | emptyKind (criterion : String)
  | unknownType (name criterion : String)
  | emptyFlag (criterion : String)
  | unknownFlag (flag criterion : String)
  | malformedParameters (kind : String)
  | unknownLocale (locale criterion : String)
  | emptyLanguage (criterion : String)
  | unknownLanguage (language criterion : String)
  | emptyCountry (criterion : String)
  | unknownCountry (country criterion : String)
  | emptyVariant (criterion : String)
deriving DecidableEq

namespace SpecFault

def reason : SpecFault → String
  | emptyCriterion => "empty sort criterion"
  | emptyField criterion => "empty field name in '" ++ criterion ++ "'"
  | emptyKind criterion => "empty sort type, locale or comparator in '" ++ criterion ++ "'"
  | unknownType name criterion => "unknown sort type '" ++ name ++ "' in '" ++ criterion ++ "'"
  | emptyFlag criterion => "empty reverse flag in '" ++ criterion ++ "'"
  | unknownFlag flag criterion => "unknown reverse flag '" ++ flag ++ "' in '" ++ criterion ++ "'"
  | malformedParameters kind => "comparator parameters malformed in '" ++ kind ++ "'"
  | unknownLocale locale criterion => "unknown locale '" ++ locale ++ "' in '" ++ criterion ++ "'"
  | emptyLanguage criterion => "empty language in '" ++ criterion ++ "'"
  | unknownLanguage language criterion =>
    "unknown language '" ++ language ++ "' in '" ++ criterion ++ "'"
  | emptyCountry criterion => "empty country in '" ++ criterion ++ "'"
  | unknownCountry country criterion =>
    "unknown country '" ++ country ++ "' in '" ++ criterion ++ "'"
  | emptyVariant criterion => "empty variant in '" ++ criterion ++ "'"

end SpecFault

inductive SortFault where
  | malformed (spec : String) (fault : SpecFault)
  | unknownField (name : String)
  | construction (fault : ConstructionFault)
deriving DecidableEq

namespace SortFault

def kind : SortFault → ErrorKind
  | malformed .. => .invalidSortSpec
  | unknownField _ => .unknownSortField
  | construction _ => .comparatorConstruction

def detail : SortFault → String
  | malformed spec fault => "sortFields='" ++ spec ++ "': " ++ fault.reason
  | unknownField name => name
  | construction fault => fault.detail

end SortFault

def pieces (delimiter : Char) (text : List Char) : List (List Char) :=
  match text with
  | [] => []
  | c :: rest =>
    if c = delimiter then
      pieces delimiter rest
    else
      (c :: rest.takeWhile (· ≠ delimiter)) :: pieces delimiter (rest.dropWhile (· ≠ delimiter))
termination_by text.length
decreasing_by
  · simp
  · have := (List.dropWhile_sublist (· ≠ delimiter) (l := rest)).length_le
    simp only [List.length_cons]
    omega

def trimmedPieces (delimiter : Char) (text : List Char) : List (List Char) :=
  (pieces delimiter text).map Unicode.trim

namespace SortSpec

def readFlag (criterion : String) (flag : List Char) : Except SpecFault Bool :=
  if flag.isEmpty then
    .error (.emptyFlag criterion)
  else
    match String.ofList (flag.map Char.toLower) with
    | "true" | "reverse" | "desc" => .ok true
    | "false" | "asc" => .ok false
    | _ => .error (.unknownFlag (.ofList flag) criterion)

def readCountry (criterion : String) : Option (List Char) → Except SpecFault (Option String)
  | none => .ok none
  | some country =>
    if country.isEmpty then .error (.emptyCountry criterion)
    else if 3 < country.length then .error (.unknownCountry (.ofList country) criterion)
    else .ok (some (.ofList country))

def readVariant (criterion : String) : Option (List Char) → Except SpecFault (Option String)
  | none => .ok none
  | some variant =>
    if variant.isEmpty then .error (.emptyVariant criterion) else .ok (some (.ofList variant))

/-- A locale of up to three parts. The language has one or two characters. -/
def readLocale (criterion : String) (kind : List Char) : Except SpecFault Locale := do
  let parts := trimmedPieces '-' kind
  if 3 < parts.length then throw (.unknownLocale (.ofList kind) criterion)
  let language := parts.head?.getD []
  if language.isEmpty then throw (.emptyLanguage criterion)
  if 2 < language.length then throw (.unknownLanguage (.ofList language) criterion)
  let country ← readCountry criterion parts[1]?
  let variant ← readVariant criterion parts[2]?
  return { language := .ofList language, country, variant }

/-- The identifier and the parameters of a comparator. The parameters stand between the first
opening parenthesis and the first closing one; what follows is not looked at. -/
def splitComparator (kind : List Char) : Except SpecFault (String × List String) :=
  match kind.dropWhile (· ≠ '(') with
  | [] => .ok (.ofList kind, [])
  | _ :: rest =>
    let identifier := kind.takeWhile (· ≠ '(')
    if identifier.length < 3 || identifier.contains ')' || !rest.contains ')' then
      .error (.malformedParameters (.ofList kind))
    else
      let parameters := (trimmedPieces '-' (rest.takeWhile (· ≠ ')'))).filter (!·.isEmpty)
      .ok (.ofList identifier, parameters.map .ofList)

def readComparator (registry : Registry) (spec : String) (kind : List Char) :
    Except SortFault CriterionKind := do
  let (identifier, parameters) ← (splitComparator kind).mapError (.malformed spec)
  let comparator ← (registry.resolve identifier parameters).mapError .construction
  return .custom { identifier, parameters, comparator }

def readKind (registry : Registry) (spec criterion : String) (kind : List Char) :
    Except SortFault CriterionKind :=
  if kind.contains '.' then
    readComparator registry spec kind
  else
    match String.ofList kind with
    | "AUTO" | "SCORE" => .ok .score
    | "DOC" => .ok .doc
    | name =>
      match ValueType.ofName? name with
      | some type => .ok (.typed type)
      | none =>
        if kind.head?.any fun c => 'A' ≤ c && c ≤ 'Z' then
          .error (.malformed spec (.unknownType name criterion))
        else
          ((readLocale criterion kind).mapError (.malformed spec)).map .collated

/-- Whether a criterion runs against its natural order. Best first is what a flag of true means
for scores, so for them the flag is turned around. -/
def readReverse (criterion : String) (kind : CriterionKind) :
    Option (List Char) → Except SpecFault Bool
  | none => .ok false
  | some flag => do
    let reverse ← readFlag criterion flag
    return if kind = .score then !reverse else reverse

/-- Reads one criterion. Where known fields are given, the field is checked before its kind. Parts
after the flag are not looked at. -/
def readCriterion (registry : Registry) (known : Option (List String)) (spec : String)
    (piece : List Char) : Except SortFault Criterion := do
  let criterion := Unicode.trim piece
  if criterion.isEmpty then throw (.malformed spec .emptyCriterion)
  let quoted := String.ofList criterion
  let parts := trimmedPieces ',' criterion
  let field := parts.head?.getD []
  if field.isEmpty then throw (.malformed spec (.emptyField quoted))
  let name := String.ofList field
  if known.any fun names => !names.contains name then throw (.unknownField name)
  match parts[1]? with
  | none => return { field := name, kind := .score, reverse := false }
  | some kind =>
    if kind.isEmpty then throw (.malformed spec (.emptyKind quoted))
    let kind ← readKind registry spec quoted kind
    let reverse ← (readReverse quoted kind parts[2]?).mapError (.malformed spec)
    return { field := name, kind, reverse }

def read (registry : Registry) (known : Option (List String)) (text : String) :
    Except SortFault SortSpec :=
  (pieces ';' text.toList).mapM (readCriterion registry known text)

def ofTextWithin (known : List String) (registry : Registry) (text : String) :
    Except SortFault SortSpec :=
  read registry (some known) text

def ofText (registry : Registry) (text : String) : Except SortFault SortSpec :=
  read registry none text

def checkFields (spec : SortSpec) (known : List String) : Except SortFault Unit :=
  match spec.unknownField? known with
  | some name => .error (.unknownField name)
  | none => .ok ()

end SortSpec

end PagedSearch
