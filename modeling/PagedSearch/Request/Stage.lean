/-! # Stages of a search -/

namespace PagedSearch

inductive SearchStage where
  | idle
  | queryBuilt
  | indexOpened
  | sortParsed
  | searched
  | formatted
  | closed
  | failed
deriving DecidableEq

namespace SearchStage

def name : SearchStage → String
  | idle => "idle"
  | queryBuilt => "query-built"
  | indexOpened => "index-opened"
  | sortParsed => "sort-parsed"
  | searched => "searched"
  | formatted => "formatted"
  | closed => "closed"
  | failed => "failed"

def isTerminal : SearchStage → Bool
  | closed | failed => true
  | _ => false

def all : List SearchStage :=
  [idle, queryBuilt, indexOpened, sortParsed, searched, formatted, closed, failed]

end SearchStage

end PagedSearch
