import PagedSearch.Markup.Escape
import PagedSearch.Result.Basic

/-! # Result documents in XML -/

namespace PagedSearch

/-- A part of an XML document. Contents are escaped already, attribute values are not. -/
inductive XmlEvent where
  | declaration
  | openTag (name : String) (attributes : List (String × String))
  | content (escaped : String)
  | closeTag (name : String)
deriving DecidableEq

namespace XmlEvent

def attributeChars (pair : String × String) : List Char :=
  ' ' :: pair.1.toList ++ ['=', '"'] ++ escapeText pair.2.toList ++ ['"']

def chars : XmlEvent → List Char
  | declaration => "<?xml version=\"1.0\" encoding=\"UTF-8\"?>".toList
  | openTag name attributes => '<' :: name.toList ++ attributes.flatMap attributeChars ++ ['>']
  | content escaped => escaped.toList
  | closeTag name => '<' :: '/' :: name.toList ++ ['>']

def writeFlat (events : List XmlEvent) : List Char := events.flatMap chars

def lineBreak (due : Bool) (depth : Nat) : List Char :=
  if due then '\n' :: List.replicate (2 * depth) ' ' else []

def writeIndented (due : Bool) (depth : Nat) : List XmlEvent → List Char
  | [] => []
  | declaration :: rest =>
    lineBreak due depth ++ declaration.chars ++ writeIndented true depth rest
  | openTag name attributes :: rest =>
    lineBreak due depth ++ (openTag name attributes).chars ++ writeIndented true (depth + 1) rest
  | content escaped :: rest => (content escaped).chars ++ writeIndented false depth rest
  | closeTag name :: rest =>
    lineBreak due (depth - 1) ++ (closeTag name).chars ++ writeIndented true (depth - 1) rest

end XmlEvent

def scoreReach : Int × Int := (-3, 6)

def scoreText (score : Binary32) : String :=
  if score.isNaN then "NaN"
  else if score.isInfinite then (if score.negative then "-Infinity" else "Infinity")
  else
    let d := score.shortest .up
    let lead := d.leadExponent
    .ofList <| score.signChars ++
      if score.isZero || (scoreReach.1 ≤ lead && lead ≤ scoreReach.2) then d.pointed
      else
        d.mantissa ++ (if d.digits < 10 then ['.', '0'] else []) ++
          'E' :: (if lead < 0 then ['-'] else []) ++ Nat.toDigits 10 lead.natAbs

namespace ResultField

def toXml (field : ResultField) : List XmlEvent :=
  .openTag "field"
      (("name", field.name) :: if field.isSnippet then [("snippet", "yes")] else []) ::
    (if field.content.isEmpty then [] else [.content field.content]) ++
    [.closeTag "field"]

end ResultField

namespace ResultHit

def toXml (hit : ResultHit) : List XmlEvent :=
  .openTag "hit" [("no", toString hit.rank), ("score", scoreText hit.score)] ::
    hit.fields.flatMap ResultField.toXml ++ [.closeTag "hit"]

end ResultHit

namespace ResultDocument

def descriptionNamespace : String := "http://purl.org/dc/elements/1.1/"

def attributes (document : ResultDocument) : List (String × String) :=
  [("xmlns:dc", descriptionNamespace), ("query", document.query),
    ("indexName", document.indexName), ("sortFields", document.sortFields),
    ("hitPageStart", toString document.start), ("hitPageSize", toString document.size),
    ("hitTotal", toString document.total)]

def toXml (document : ResultDocument) : List XmlEvent :=
  .declaration :: .openTag "resultPage" document.attributes ::
    document.hits.flatMap ResultHit.toXml ++ [.closeTag "resultPage"]

def xmlText (document : ResultDocument) (pretty : Bool) : String :=
  .ofList <|
    if pretty then XmlEvent.writeIndented false 0 document.toXml
    else XmlEvent.writeFlat document.toXml

end ResultDocument

end PagedSearch
