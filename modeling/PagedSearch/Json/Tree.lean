import PagedSearch.Json.Token

/-!
# JSON documents as trees

A tree holds a document as it was written: number literals unread, repeated keys in place. It is
read from tokens by a machine whose stack holds the lists and objects that are still open, so the
tokens are consumed one by one and nesting has no limit.
-/

namespace PagedSearch

inductive JsonTree where
  | null
  | bool (b : Bool)
  | number (literal : JsonLiteral)
  | text (content : Option String)
  | list (items : List JsonTree)
  | object (members : List (Option String × JsonTree))

namespace JsonTree

inductive Frame where
  | list (items : List JsonTree)
  | object (members : List (Option String × JsonTree)) (key : Option String)

/-- What may come next. A list or object that was just opened may close at once. -/
inductive State where
  | value (opened : Bool) (stack : List Frame)
  | key (opened : Bool) (stack : List Frame)
  | colon (stack : List Frame)
  | separator (stack : List Frame)
  | complete (tree : JsonTree)

def push (tree : JsonTree) : List Frame → State
  | [] => .complete tree
  | .list items :: rest => .separator (.list (tree :: items) :: rest)
  | .object members key :: rest => .separator (.object ((key, tree) :: members) key :: rest)

def closeList : List Frame → Option State
  | .list items :: rest => some (push (.list items.reverse) rest)
  | _ => none

def closeObject : List Frame → Option State
  | .object members _ :: rest => some (push (.object members.reverse) rest)
  | _ => none

def step : State → JsonToken → Option State
  | .value _ stack, .null => some (push .null stack)
  | .value _ stack, .bool b => some (push (.bool b) stack)
  | .value _ stack, .number literal => some (push (.number literal) stack)
  | .value _ stack, .text content => some (push (.text content) stack)
  | .value _ stack, .openList => some (.value true (.list [] :: stack))
  | .value _ stack, .openObject => some (.key true (.object [] none :: stack))
  | .value true stack, .closeList => closeList stack
  | .key _ (.object members _ :: rest), .text key => some (.colon (.object members key :: rest))
  | .key true stack, .closeObject => closeObject stack
  | .colon stack, .colon => some (.value false stack)
  | .separator (.list items :: rest), .comma => some (.value false (.list items :: rest))
  | .separator (.object members key :: rest), .comma =>
    some (.key false (.object members key :: rest))
  | .separator stack, .closeList => closeList stack
  | .separator stack, .closeObject => closeObject stack
  | _, _ => none

def run : State → List JsonToken → Option State
  | state, [] => some state
  | state, token :: rest =>
    match step state token with
    | some next => run next rest
    | none => none

def ofTokens? (tokens : List JsonToken) : Option JsonTree :=
  match run (.value false []) tokens with
  | some (.complete tree) => some tree
  | _ => none

def read? (text : List Char) : Option JsonTree := (JsonToken.scan? text).bind ofTokens?

def text? : JsonTree → Option String
  | .text content => content
  | _ => none

def bool? : JsonTree → Option Bool
  | .bool b => some b
  | _ => none

def number? : JsonTree → Option JsonNumber
  | .number literal => literal.number?
  | _ => none

def natural? (tree : JsonTree) : Option Nat :=
  match tree.number? with
  | some (.integer i) => if 0 ≤ i then some i.toNat else none
  | _ => none

def list? : JsonTree → Option (List JsonTree)
  | .list items => some items
  | _ => none

/-- The values of a record's fields in the order of the given names. An object names its fields:
unknown keys are skipped, a repeated field or a key that is no text is refused. A list gives them
by position and may not have more items than there are fields. -/
def record? (names : List String) : JsonTree → Option (List (Option JsonTree))
  | .object members =>
    if members.all (·.1.isSome) &&
        names.all (fun name => (members.filter (·.1 == some name)).length ≤ 1) then
      some (names.map fun name => members.lookup (some name))
    else none
  | .list items =>
    if items.length ≤ names.length then
      some (items.map some ++ List.replicate (names.length - items.length) none)
    else none
  | _ => none

end JsonTree

end PagedSearch
