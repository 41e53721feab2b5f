/-! # Kinds of errors -/

namespace PagedSearch

inductive ErrorKind where
  | invalidSortSpec
  | unknownSortField
  | comparatorConstruction
  | indexUnavailable
  | sortExecution
  | queryParse
  | invalidRequest
  | analysis
  | configuration
  | inputOutput
  | json
  | xml
  | other
deriving DecidableEq

namespace ErrorKind

def message (kind : ErrorKind) (detail : String) : String :=
  match kind with
  | invalidSortSpec => "Invalid sort specification: " ++ detail
  | unknownSortField => "Unknown sort field: '" ++ detail ++ "' not found as index field name"
  | comparatorConstruction => "Comparator construction failed: " ++ detail
  | indexUnavailable => "Index unavailable: " ++ detail
  | sortExecution => "Sort execution failed: " ++ detail
  | queryParse => "Query parse failed: " ++ detail
  | invalidRequest => "Invalid request: " ++ detail
  | analysis => "Analysis error: " ++ detail
  | configuration => "Configuration error: " ++ detail
  | inputOutput => "I/O error: " ++ detail
  | json => "JSON error: " ++ detail
  | xml => "XML error: " ++ detail
  | other => "Error: " ++ detail

def blamesInput : ErrorKind → Bool
  | invalidSortSpec | unknownSortField | comparatorConstruction | invalidRequest
  | queryParse => true
  | _ => false

def exitStatus (kind : ErrorKind) : Nat := if kind.blamesInput then 2 else 1

end ErrorKind

end PagedSearch
