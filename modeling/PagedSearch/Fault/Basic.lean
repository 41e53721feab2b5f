import PagedSearch.Store.Lines
import PagedSearch.Query.Syntax
import PagedSearch.Request.Defaults
import PagedSearch.Order.Hits

/-! # Errors -/

namespace PagedSearch

inductive SearchError where
  | request (fault : RequestFault)
  | query (text : String) (fault : QueryFault)
  | sort (fault : SortFault)
  | index (fault : IndexFault)
  | order (fault : OrderFault)
  | aliasTarget (fault : AliasFault)
  | line (fault : LineFault)
  | defaults (fault : DefaultsFault)
deriving DecidableEq

namespace SearchError

def kind : SearchError → ErrorKind
  | request _ => .invalidRequest
  | query .. => .queryParse
  | sort fault => fault.kind
  | index _ => .indexUnavailable
  | order fault => fault.kind
  | aliasTarget _ => .configuration
  | line fault => fault.kind
  | defaults _ => .configuration

def detail : SearchError → String
  | request fault => fault.detail
  | query text fault => "Cannot parse '" ++ text ++ "': " ++ fault.reason
  | sort fault => fault.detail
  | index fault => fault.detail
  | order fault => fault.detail
  | aliasTarget fault => fault.detail
  | line fault => fault.detail
  | defaults fault => fault.detail

def message (e : SearchError) : String := e.kind.message e.detail

def blamesInput (e : SearchError) : Bool := e.kind.blamesInput

def exitStatus (e : SearchError) : Nat := e.kind.exitStatus

end SearchError

end PagedSearch
