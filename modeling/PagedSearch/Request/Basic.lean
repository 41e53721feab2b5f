import PagedSearch.Excerpt.Fragment
import PagedSearch.Unicode.Basic

/-!
# Search requests

The settings say what a search looks at and shows, whatever it is asked for, and every setting has
a standard value. A request adds the query and the location. Both are checked without an index.
-/

namespace PagedSearch

inductive SettingsFault where
  | start
  | size
  | noField
deriving DecidableEq

namespace SettingsFault

def detail : SettingsFault → String
  | start => "start_record must be at least 1"
  | size => "max_results must be at least 1"
  | noField => "at least one default field is required"

end SettingsFault

/-- The settings of a search: the fields that a query searches unless it names others, the rank of
the first hit and the number of hits on the page, the number of fragments in a snippet, the length
of fragments and excerpts, the tags around matches, and the sort specification. A length of zero is
no limit, and no fragments mean no snippets. -/
structure SearchSettings where
  fields : List String
  start : Nat
  size : Nat
  snippets : Nat
  lengthLimit : Nat
  tags : TagPair
  sort : String
deriving DecidableEq

namespace SearchSettings

def standard : SearchSettings where
  fields := ["text"]
  start := 1
  size := 10
  snippets := 0
  lengthLimit := 0
  tags := .standard
  sort := ""

def check (settings : SearchSettings) : Except SettingsFault Unit :=
  if settings.start = 0 then .error .start
  else if settings.size = 0 then .error .size
  else if settings.fields.isEmpty then .error .noField
  else .ok ()

end SearchSettings

inductive RequestFault where
  | settings (fault : SettingsFault)
  | blankField (field : String)
deriving DecidableEq

namespace RequestFault

def detail : RequestFault → String
  | settings fault => fault.detail
  | blankField field => "default field '" ++ field ++ "' is empty"

end RequestFault

structure Request extends SearchSettings where
  query : String
  location : String
  name : Option String
deriving DecidableEq

namespace Request

def indexName (request : Request) : String := request.name.getD request.location

def check (request : Request) : Except RequestFault Unit :=
  match request.toSearchSettings.check with
  | .error fault => .error (.settings fault)
  | .ok () =>
    match request.fields.find? fun field => Unicode.isBlank field.toList with
    | some field => .error (.blankField field)
    | none => .ok ()

end Request

end PagedSearch
