import Std.Data.TreeMap.Basic
import PagedSearch.Order.ValueComparator

/-!
# Comparator registries

A registry knows field comparators by identifier. An identifier has constructors, of which the
first that accepts the given parameters is used. An alias is another name for an identifier.
-/

namespace PagedSearch

structure ComparatorRecipe where
  signature : String
  construct : List String → Except String ValueComparator

/-- Why no comparator could be constructed: the identifier is not registered, or every constructor
refused, each with its signature and its reason. -/
inductive ConstructionFault where
  | unregistered (identifier : String)
  | refused (identifier : String) (attempts : List (String × String))
deriving DecidableEq

namespace ConstructionFault

def attemptText (place : Nat) (attempt : String × String) : String :=
  "\nconstructor[" ++ toString place ++ "]='" ++ attempt.1 ++ "'\n" ++ attempt.2 ++ " "

def detail : ConstructionFault → String
  | unregistered identifier => "comparator '" ++ identifier ++ "': not registered"
  | refused identifier attempts =>
    "comparator '" ++ identifier ++ "': no constructor applied:" ++
      String.join (attempts.mapIdx attemptText)

end ConstructionFault

structure AliasFault where
  name : String
  target : String
deriving DecidableEq

namespace AliasFault

def detail (fault : AliasFault) : String :=
  "comparator alias '" ++ fault.name ++ "' targets unregistered comparator '" ++ fault.target ++ "'"

end AliasFault

structure Registry where
  constructors : Std.TreeMap String (List ComparatorRecipe)
  aliases : Std.TreeMap String String

namespace Registry

def empty : Registry := ⟨∅, ∅⟩

def register (registry : Registry) (identifier : String) (c : ComparatorRecipe) : Registry :=
  { registry with
    constructors := registry.constructors.insert identifier
      (registry.constructors.getD identifier [] ++ [c]) }

def identifierOf (registry : Registry) (name : String) : String := registry.aliases.getD name name

def contains (registry : Registry) (name : String) : Bool :=
  registry.constructors.contains (registry.identifierOf name)

def identifiers (registry : Registry) : List String := registry.constructors.keys

/-- Makes a name an alias of a registered identifier. Aliases are not followed. -/
def insertAlias (registry : Registry) (name target : String) : Except AliasFault Registry :=
  if registry.constructors.contains target then
    .ok { registry with aliases := registry.aliases.insert name target }
  else
    .error ⟨name, target⟩

def insertAliases (registry : Registry) (aliases : List (String × String)) :
    Except AliasFault Registry :=
  aliases.foldlM (fun registry (name, target) => registry.insertAlias name target) registry

def firstApplied (parameters : List String) :
    List ComparatorRecipe → Except (List (String × String)) ValueComparator
  | [] => .error []
  | c :: rest =>
    match c.construct parameters with
    | .ok comparator => .ok comparator
    | .error reason => (firstApplied parameters rest).mapError ((c.signature, reason) :: ·)

def resolve (registry : Registry) (name : String) (parameters : List String) :
    Except ConstructionFault ValueComparator :=
  match registry.constructors[registry.identifierOf name]? with
  | none => .error (.unregistered name)
  | some constructors => (firstApplied parameters constructors).mapError (.refused name)

end Registry

namespace ComparatorRecipe

def plain (signature : String) (comparator : ValueComparator) : ComparatorRecipe where
  signature := signature
  construct parameters :=
    if parameters.isEmpty then .ok comparator
    else .error ("expected 0 parameters, got " ++ toString parameters.length)

def defaultArticles : List (List Char) := [['t', 'h', 'e'], ['a'], ['a', 'n']]

/-- Takes the articles to skip. Letter case does not matter and blank ones do not count. -/
def withArticles : ComparatorRecipe where
  signature := "ArticleSkippingComparator(String...)"
  construct parameters :=
    let articles := (parameters.map fun article =>
      Unicode.lowercase (Unicode.trim article.toList)).filter (!·.isEmpty)
    if articles.isEmpty then .error "expected at least one article"
    else .ok (.articleSkipping articles)

def numericWithMissing : ComparatorRecipe where
  signature := "NumericComparator(double missingValue)"
  construct parameters :=
    match parameters with
    | [missing] =>
      match readBinary? .double missing.toList with
      | some x => .ok (.numeric (some x))
      | none =>
        .error ("missingValue '" ++ missing ++ "': " ++
          if missing.isEmpty then "cannot parse float from empty string"
          else "invalid float literal")
    | _ => .error ("expected 1 parameter, got " ++ toString parameters.length)

end ComparatorRecipe

namespace Registry

def lengthIdentifier : String := "hitpage.sort.LengthComparator"
def articleSkippingIdentifier : String := "hitpage.sort.ArticleSkippingComparator"
def numericIdentifier : String := "hitpage.sort.NumericComparator"

def builtin : Registry :=
  [(lengthIdentifier, .plain "LengthComparator()" .length),
    (articleSkippingIdentifier,
      .plain "ArticleSkippingComparator()" (.articleSkipping ComparatorRecipe.defaultArticles)),
    (articleSkippingIdentifier, .withArticles),
    (numericIdentifier, .plain "NumericComparator()" (.numeric none)),
    (numericIdentifier, .numericWithMissing)].foldl
    (fun registry (identifier, c) => registry.register identifier c) empty

end Registry

end PagedSearch
