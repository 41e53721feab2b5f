import PagedSearch.Json.Value

/-!
# Result documents

What is shown for a request: the request's own parameters and the hits of one page. Contents are
escaped already. A result document has a JSON form, from which it can be read back.
-/

namespace PagedSearch

structure ResultField where
  name : String
  isSnippet : Bool
  content : String
deriving DecidableEq

structure ResultHit where
  rank : Nat
  score : Binary32
  fields : List ResultField
deriving DecidableEq

structure ResultDocument where
  query : String
  indexName : String
  sortFields : String
  start : Nat
  size : Nat
  total : Nat
  hits : List ResultHit
deriving DecidableEq

namespace ResultField

/-- The members of a field; that it is no snippet is not written. -/
def toJson (field : ResultField) : Json :=
  .object <|
    ("name", .text field.name) ::
      (if field.isSnippet then [("snippet", .bool true)] else []) ++
      [("content", .text field.content)]

def names : List String := ["name", "snippet", "content"]

def ofTree? (tree : JsonTree) : Option ResultField := do
  match ← tree.record? names with
  | [some name, snippet, some content] =>
    let isSnippet ←
      match snippet with
      | some flag => flag.bool?
      | none => some false
    return { name := ← name.text?, isSnippet, content := ← content.text? }
  | _ => none

end ResultField

namespace ResultHit

def toJson (hit : ResultHit) : Json :=
  .object [("no", .integer hit.rank), ("score", .single hit.score),
    ("fields", .list (hit.fields.map ResultField.toJson))]

def names : List String := ["no", "score", "fields"]

def ofTree? (tree : JsonTree) : Option ResultHit := do
  match ← tree.record? names with
  | [some rank, some score, some fields] =>
    return {
      rank := ← rank.natural?
      score := (← score.number?).toBinary
      fields := ← (← fields.list?).mapM ResultField.ofTree? }
  | _ => none

end ResultHit

namespace ResultDocument

def toJson (document : ResultDocument) : Json :=
  .object [("query", .text document.query), ("indexName", .text document.indexName),
    ("sortFields", .text document.sortFields), ("hitPageStart", .integer document.start),
    ("hitPageSize", .integer document.size), ("hitTotal", .integer document.total),
    ("hits", .list (document.hits.map ResultHit.toJson))]

def names : List String :=
  ["query", "indexName", "sortFields", "hitPageStart", "hitPageSize", "hitTotal", "hits"]

def ofTree? (tree : JsonTree) : Option ResultDocument := do
  match ← tree.record? names with
  | [some query, some indexName, some sortFields, some start, some size, some total, some hits] =>
    return {
      query := ← query.text?
      indexName := ← indexName.text?
      sortFields := ← sortFields.text?
      start := ← start.natural?
      size := ← size.natural?
      total := ← total.natural?
      hits := ← (← hits.list?).mapM ResultHit.ofTree? }
  | _ => none

def jsonText (document : ResultDocument) (pretty : Bool) : String :=
  if pretty then document.toJson.pretty else document.toJson.compact

def readJson? (text : List Char) : Option ResultDocument := (JsonTree.read? text).bind ofTree?

end ResultDocument

end PagedSearch
