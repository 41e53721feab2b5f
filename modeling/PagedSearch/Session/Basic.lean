import PagedSearch.Index.Basic
import PagedSearch.Store.Lines

/-!
# Sessions

An index is read through a session that a provider opens at a location. The provider counts the
sessions it opened and those that were closed again. A closed session refuses every read. Where a
location is the path of a file of JSON lines, every session reads the whole file anew, and a file
with a bad line is no index.
-/

namespace PagedSearch

inductive IndexFault where
  | noIndex (location : String)
  | notFile (location : String)
  | badLine (location : String) (detail : String)
  | closed (location : String)
  | noDocument (id : Nat) (location : String)
deriving DecidableEq

namespace IndexFault

def detail : IndexFault → String
  | noIndex location => "no index at '" ++ location ++ "'"
  | notFile location => "'" ++ location ++ "' is not a readable file"
  | badLine location detail => location ++ ": " ++ detail
  | closed location => "session on '" ++ location ++ "' is closed"
  | noDocument id location => "document " ++ toString id ++ " not found in '" ++ location ++ "'"

end IndexFault

structure Session where
  location : String
  index : Index
  isClosed : Bool

namespace Session

def read {α : Type} (session : Session) (f : Index → α) : Except IndexFault α :=
  if session.isClosed then .error (.closed session.location) else .ok (f session.index)

def documentCount (session : Session) : Except IndexFault Nat := session.read Index.size

def fieldNames (session : Session) : Except IndexFault (List String) :=
  session.read Index.fieldNames

def hits (session : Session) (query : Query) : Except IndexFault (List Hit) :=
  session.read (·.hits query)

def document (session : Session) (id : Nat) : Except IndexFault Document := do
  match ← session.read (·.document? id) with
  | some document => return document
  | none => throw (.noDocument id session.location)

end Session

structure SessionCounts where
  opened : Nat
  closed : Nat
deriving DecidableEq

namespace SessionCounts

def zero : SessionCounts := ⟨0, 0⟩

def remaining (c : SessionCounts) : Nat := c.opened - c.closed

def countOpened (c : SessionCounts) : SessionCounts := { c with opened := c.opened + 1 }

def countClosed (c : SessionCounts) : SessionCounts := { c with closed := c.closed + 1 }

/-- Closes a session. A session that is closed already is not counted again. -/
def close (c : SessionCounts) (session : Session) : SessionCounts × Session :=
  if session.isClosed then (c, session) else (c.countClosed, { session with isClosed := true })

end SessionCounts

/-- A session that has to be closed once it is no longer needed. The guard remembers whether it has
released its session. -/
structure SessionGuard where
  session : Session
  released : Bool

namespace SessionGuard

def ofSession (session : Session) : SessionGuard := ⟨session, false⟩

def release (guard : SessionGuard) (counters : SessionCounts) : SessionCounts × SessionGuard :=
  if guard.released then
    (counters, guard)
  else
    let (counters, session) := counters.close guard.session
    (counters, ⟨session, true⟩)

def drop (guard : SessionGuard) (counters : SessionCounts) : SessionCounts :=
  (guard.release counters).1

end SessionGuard

structure IndexSource where
  load : String → Except IndexFault Index

namespace IndexSource

def ofIndexes (indexes : List (String × Index)) : IndexSource where
  load location :=
    match indexes.lookup location with
    | some index => .ok index
    | none => .error (.noIndex location)

def openSession (source : IndexSource) (counters : SessionCounts) (location : String) :
    Except IndexFault (SessionCounts × Session) :=
  (source.load location).map fun index =>
    (counters.countOpened, { location, index, isClosed := false })

end IndexSource

def Index.ofLines (analyzer : Analyzer) (location : String) (content : List UInt8) :
    Except IndexFault Index :=
  match (lineItems content).mapM LineItem.document? with
  | .ok documents => .ok (.ofDocuments analyzer documents)
  | .error detail => .error (.badLine location detail)

def IndexSource.ofFiles (analyzer : Analyzer) (files : FileView) : IndexSource where
  load location :=
    match files location with
    | .file content => Index.ofLines analyzer location content
    | _ => .error (.notFile location)

end PagedSearch
