import PagedSearch.FileView
import PagedSearch.Json.Tree
import PagedSearch.Request.Basic
import PagedSearch.Order.Registry

/-!
# Search defaults

The settings of every request that does not give its own, and aliases for comparators. They are
written as a JSON record of which any field may be missing.
-/

namespace PagedSearch

/-- Why defaults are refused. The detail of malformed defaults leaves out the message of the JSON
reader, which is not modelled. -/
inductive DefaultsFault where
  | unreadable (path : String) (fault : FileFault)
  | malformed (path : String)
  | settings (fault : SettingsFault)
deriving DecidableEq

namespace DefaultsFault

def detail : DefaultsFault → String
  | unreadable path fault => "cannot read '" ++ path ++ "': " ++ fault.reason
  | malformed path => "cannot parse '" ++ path ++ "'"
  | settings fault => fault.detail

end DefaultsFault

structure SearchDefaults extends SearchSettings where
  aliases : Std.TreeMap String String

namespace SearchDefaults

def standard : SearchDefaults := ⟨.standard, ∅⟩

def names : List String :=
  ["default_fields", "start_record", "max_results", "snippets_max", "field_max_length",
    "snippet_begin", "snippet_end", "sort_fields", "comparator_aliases"]

def texts? (tree : JsonTree) : Option (List String) := tree.list?.bind (·.mapM JsonTree.text?)

/-- The aliases that an object gives. The last one of a name counts. -/
def aliases? : JsonTree → Option (Std.TreeMap String String)
  | .object members =>
    members.foldlM
      (fun aliases (name, target) => do return aliases.insert (← name) (← target.text?)) ∅
  | _ => none

def fieldOr {α : Type} (missing : α) (read? : JsonTree → Option α) : Option JsonTree → Option α
  | some tree => read? tree
  | none => some missing

def tags? (before after : Option JsonTree) : Option TagPair := do
  return {
    before := ← fieldOr TagPair.standard.before JsonTree.text? before
    after := ← fieldOr TagPair.standard.after JsonTree.text? after }

def ofTree? (tree : JsonTree) : Option SearchDefaults := do
  match ← tree.record? names with
  | [fields, start, size, snippets, lengthLimit, before, after, sort, aliases] =>
    return {
      fields := ← fieldOr standard.fields texts? fields
      start := ← fieldOr standard.start JsonTree.natural? start
      size := ← fieldOr standard.size JsonTree.natural? size
      snippets := ← fieldOr standard.snippets JsonTree.natural? snippets
      lengthLimit := ← fieldOr standard.lengthLimit JsonTree.natural? lengthLimit
      tags := ← tags? before after
      sort := ← fieldOr standard.sort JsonTree.text? sort
      aliases := ← fieldOr standard.aliases aliases? aliases }
  | _ => none

def readJson? (text : List Char) : Option SearchDefaults := (JsonTree.read? text).bind ofTree?

def load (files : FileView) (path : String) : Except DefaultsFault SearchDefaults := do
  let text ← (files path).text?.mapError (.unreadable path)
  match readJson? text.toList with
  | some defaults =>
    defaults.check.mapError .settings
    return defaults
  | none => throw (.malformed path)

def registry (defaults : SearchDefaults) : Except AliasFault Registry :=
  Registry.builtin.insertAliases defaults.aliases.toList

def request (defaults : SearchDefaults) (query location : String) : Request :=
  { defaults.toSearchSettings with query, location, name := none }

end SearchDefaults

end PagedSearch
