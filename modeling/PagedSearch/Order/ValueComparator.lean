import PagedSearch.Store.Document
import PagedSearch.Fault.Kind

/-! # Field comparators -/

namespace PagedSearch

structure ValueFault where
  value : StoredValue
deriving DecidableEq

namespace ValueFault

def detail (fault : ValueFault) : String := "'" ++ fault.value.display ++ "' is not a number"

def message (fault : ValueFault) : String := ErrorKind.sortExecution.message fault.detail

end ValueFault

/-- A comparator orders values by the length of their texts, by their texts without a leading
article, or by number. A numeric comparator may have a number that stands for a missing value. -/
inductive ValueComparator where
  | length
  | articleSkipping (articles : List (List Char))
  | numeric (missing : Option Binary64)
deriving DecidableEq

namespace ValueComparator

def name : ValueComparator → String
  | length => "length"
  | articleSkipping _ => "article-skipping"
  | numeric _ => "numeric"

def textLength (value : Option StoredValue) : Nat :=
  match value with
  | some v => v.display.length
  | none => 0

def afterArticle? (article text : List Char) : Option (List Char) :=
  if article.isPrefixOf text then
    match text.drop article.length with
    | [] => none
    | c :: rest => if Unicode.isSpace c then some (Unicode.trimStart rest) else none
  else
    none

/-- The text without the first of the articles that leads it. -/
def skipArticle (articles : List (List Char)) (text : List Char) : List Char :=
  (articles.findSome? fun article => afterArticle? article text).getD text

def titleText (articles : List (List Char)) (value : StoredValue) : String :=
  .ofList (skipArticle articles
    (Unicode.lowercase (Unicode.trim value.display.toList)))

/-- The number a value is sorted by. Without a number for missing values they come first. -/
def numberOf (missing : Option Binary64) : Option StoredValue → Except ValueFault Binary64
  | none => .ok (missing.getD (.infinity true))
  | some value =>
    match value.number? with
    | some x => .ok x
    | none => .error ⟨value⟩

def order (comparator : ValueComparator) (a b : Option StoredValue) :
    Except ValueFault Ordering :=
  match comparator with
  | length => .ok (compare (textLength a) (textLength b))
  | articleSkipping articles =>
    .ok (compare (a.map (titleText articles)) (b.map (titleText articles)))
  | numeric missing => do
    let x ← numberOf missing a
    let y ← numberOf missing b
    return x.compareTotal y

end ValueComparator

end PagedSearch
