import PagedSearch.Json.Tree

/-! # JSON values -/

namespace PagedSearch

inductive Json where
  | null
  | bool (b : Bool)
  | integer (i : Int)
  | single (x : Binary32)
  | double (x : Binary64)
  | text (s : String)
  | list (items : List Json)
  | object (members : List (String × Json))

namespace Json

def insertMember (key : String) (value : Json) : List (String × Json) → List (String × Json)
  | [] => [(key, value)]
  | (k, v) :: rest => if k = key then (k, value) :: rest else (k, v) :: insertMember key value rest

def nestingLimit : Nat := 127

mutual

def ofTree? (nesting : Nat) : JsonTree → Option Json
  | .null => some .null
  | .bool b => some (.bool b)
  | .number literal =>
    literal.number?.map fun
      | .integer i => .integer i
      | .real x => .double x
  | .text content => content.map .text
  | .list items => if nesting = 0 then none else (ofTrees? (nesting - 1) items).map .list
  | .object members =>
    if nesting = 0 then none else (ofMembers? (nesting - 1) [] members).map .object

def ofTrees? (nesting : Nat) : List JsonTree → Option (List Json)
  | [] => some []
  | tree :: rest => do
    let value ← ofTree? nesting tree
    let values ← ofTrees? nesting rest
    return value :: values

def ofMembers? (nesting : Nat) (known : List (String × Json)) :
    List (Option String × JsonTree) → Option (List (String × Json))
  | [] => some known
  | (key, tree) :: rest => do
    let key ← key
    let value ← ofTree? nesting tree
    ofMembers? nesting (insertMember key value known) rest

end

def read? (text : List Char) : Option Json := (JsonTree.read? text).bind (ofTree? nestingLimit)

def hexChar (n : Nat) : Char :=
  if n < 10 then .ofNat ('0'.toNat + n) else .ofNat ('a'.toNat + n - 10)

def escapeChar (c : Char) : List Char :=
  if c = '"' then ['\\', '"']
  else if c = '\\' then ['\\', '\\']
  else if c = '\x08' then ['\\', 'b']
  else if c = '\x0c' then ['\\', 'f']
  else if c = '\n' then ['\\', 'n']
  else if c = '\r' then ['\\', 'r']
  else if c = '\t' then ['\\', 't']
  else if c < ' ' then ['\\', 'u', '0', '0', hexChar (c.toNat / 16), hexChar (c.toNat % 16)]
  else [c]

def quote (s : String) : List Char := '"' :: s.toList.flatMap escapeChar ++ ['"']

abbrev Layout := Option Nat

namespace Layout

def deeper (layout : Layout) : Layout := layout.map (· + 1)

def newLine : Layout → List Char
  | none => []
  | some depth => '\n' :: List.replicate (2 * depth) ' '

def colon : Layout → List Char
  | none => [':']
  | some _ => [':', ' ']

end Layout

def integerChars (i : Int) : List Char :=
  (if i < 0 then ['-'] else []) ++ Nat.toDigits 10 i.natAbs

mutual

def write (layout : Layout) : Json → List Char
  | .null => ['n', 'u', 'l', 'l']
  | .bool true => ['t', 'r', 'u', 'e']
  | .bool false => ['f', 'a', 'l', 's', 'e']
  | .integer i => integerChars i
  | .single x => x.jsonText .single
  | .double x => x.jsonText .double
  | .text s => quote s
  | .list [] => ['[', ']']
  | .list (item :: rest) =>
    '[' :: (layout.deeper.newLine ++ write layout.deeper item ++ writeItems layout.deeper rest ++
      layout.newLine ++ [']'])
  | .object [] => ['\x7b', '\x7d']
  | .object ((key, value) :: rest) =>
    '\x7b' :: (layout.deeper.newLine ++ quote key ++ layout.colon ++ write layout.deeper value ++
      writeMembers layout.deeper rest ++ layout.newLine ++ ['\x7d'])

def writeItems (layout : Layout) : List Json → List Char
  | [] => []
  | item :: rest =>
    ',' :: (layout.newLine ++ write layout item ++ writeItems layout rest)

def writeMembers (layout : Layout) : List (String × Json) → List Char
  | [] => []
  | (key, value) :: rest =>
    ',' :: (layout.newLine ++ quote key ++ layout.colon ++ write layout value ++
      writeMembers layout rest)

end

def compact (value : Json) : String := .ofList (value.write none)

def pretty (value : Json) : String := .ofList (value.write (some 0))

end Json

end PagedSearch
