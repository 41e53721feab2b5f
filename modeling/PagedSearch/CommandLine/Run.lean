import PagedSearch.CommandLine.Basic
import PagedSearch.Result.Xml
import PagedSearch.Session.Basic
import PagedSearch.Request.Searcher

/-! # Executing commands -/

namespace PagedSearch

structure FieldListing where
  location : String
  documents : Nat
  names : List String
deriving DecidableEq

namespace FieldListing

def toJson (listing : FieldListing) : Json :=
  .object [("index", .text listing.location), ("documents", .integer listing.documents),
    ("fields", .list (listing.names.map Json.text))]

def text (listing : FieldListing) (format : Rendering) (pretty : Bool) : String :=
  match format with
  | .xml => String.join (listing.names.map (· ++ "\n"))
  | .json => (if pretty then listing.toJson.pretty else listing.toJson.compact) ++ "\n"

def ofSource (source : IndexSource) (location : String) : Except IndexFault FieldListing := do
  let (_, session) ← source.openSession .zero location
  return {
    location
    documents := ← session.documentCount
    names := ← session.fieldNames }

end FieldListing

def ResultDocument.text (document : ResultDocument) (format : Rendering) (pretty : Bool) :
    String :=
  match format with
  | .xml => document.xmlText pretty ++ "\n"
  | .json => document.jsonText pretty ++ "\n"

namespace CommandLine

def loadDefaults (files : FileView) (line : CommandLine) : Except SearchError SearchDefaults :=
  match line.defaults with
  | some path => (SearchDefaults.load files path).mapError .defaults
  | none => .ok .standard

def execute (files : FileView) (line : CommandLine) : Except SearchError String := do
  let defaults ← line.loadDefaults files
  let source := IndexSource.ofFiles .standard files
  match line.command with
  | .search command =>
    let registry ← defaults.registry.mapError .aliasTarget
    let service : Searcher := { source, analyzer := .standard, registry }
    let document ← (service.execute .zero (command.request defaults)).2
    return document.text line.format line.pretty
  | .fields location =>
    let listing ← (FieldListing.ofSource source location).mapError .index
    return listing.text line.format line.pretty

def paths (line : CommandLine) : List String :=
  line.defaults.toList ++
    match line.command with
    | .search command => [command.location]
    | .fields location => [location]

end CommandLine

end PagedSearch
