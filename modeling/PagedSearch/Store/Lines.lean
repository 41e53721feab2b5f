import PagedSearch.Store.Document
import PagedSearch.Fault.Kind
import PagedSearch.FileView

/-!
# Documents from JSON lines

Each line of a file is one JSON object. Its keys are field names; an array stands for repeated
occurrences of a field, and null for none. Blank lines are skipped, and a bad line does not keep
later ones from being read.
-/

namespace PagedSearch

/-- Why a line is no document. The detail of a malformed line stands for the message of the JSON
reader, which is not modelled. -/
inductive LineFault where
  | malformed
  | notObject (line : String)
  | nested (key : String)
deriving DecidableEq

namespace LineFault

def kind : LineFault → ErrorKind
  | malformed => .json
  | notObject _ | nested _ => .indexUnavailable

def detail : LineFault → String
  | malformed => "malformed document"
  | notObject line => "expected a JSON object per line, found: " ++ line
  | nested key =>
    "field '" ++ key ++ "' holds a nested value; only scalars and arrays of scalars are stored"

def message (fault : LineFault) : String := fault.kind.message fault.detail

end LineFault

namespace Document

def scalarFields (key : String) (value : Json) : Except LineFault (List StoredField) :=
  match value with
  | .null => .ok []
  | value =>
    match StoredValue.ofScalar? value with
    | some stored => .ok [⟨key, stored⟩]
    | none => .error (.nested key)

def memberFields (key : String) : Json → Except LineFault (List StoredField)
  | .list items => (items.mapM (scalarFields key)).map List.flatten
  | value => scalarFields key value

def ofLine (line : String) : Except LineFault Document :=
  match Json.read? line.toList with
  | none => .error .malformed
  | some (.object members) =>
    (members.mapM fun (key, value) => memberFields key value).map fun fields =>
      ⟨List.flatten fields⟩
  | some _ => .error (.notObject line)

end Document

inductive LineItem where
  | document (d : Document)
  | faulty (number : Nat) (fault : LineFault)
  | undecodable (number : Nat)
deriving DecidableEq

namespace LineItem

def document? : LineItem → Except String Document
  | document d => .ok d
  | faulty number fault => .error ("line " ++ toString number ++ ": " ++ fault.message)
  | undecodable number =>
    .error ("failed to read line " ++ toString number ++ ": stream did not contain valid UTF-8")

def message? (item : LineItem) : Option String :=
  match item.document? with
  | .ok _ => none
  | .error detail => some (ErrorKind.indexUnavailable.message detail)

end LineItem

def LineItem.ofLine? (number : Nat) (bytes : List UInt8) : Option LineItem :=
  match decodeText? bytes with
  | none => some (.undecodable number)
  | some text =>
    let line := Unicode.trim text.toList
    if line.isEmpty then
      none
    else
      match Document.ofLine (.ofList line) with
      | .ok d => some (.document d)
      | .error fault => some (.faulty number fault)

structure LineReader where
  unread : List UInt8
  number : Nat

namespace LineReader

def ofFile (content : List UInt8) : LineReader := ⟨content, 0⟩

def readLine? (reader : LineReader) : Option (List UInt8 × LineReader) :=
  if reader.unread.isEmpty then
    none
  else
    some (reader.unread.takeWhile (· ≠ 10),
      ⟨(reader.unread.dropWhile (· ≠ 10)).drop 1, reader.number + 1⟩)

private theorem length_of_readLine? {reader behind : LineReader} {line : List UInt8}
    (h : reader.readLine? = some (line, behind)) :
    behind.unread.length < reader.unread.length := by
  obtain ⟨unread, number⟩ := reader
  rw [readLine?] at h
  split at h
  · cases h
  cases h
  cases unread with
  | nil => contradiction
  | cons byte rest =>
    have hrest := (List.dropWhile_sublist (· ≠ 10) (l := rest)).length_le
    by_cases hbyte : byte = 10
    · simp [hbyte]
    · simp only [List.dropWhile_cons, ne_eq, hbyte, not_false_eq_true, decide_true, ↓reduceIte,
        List.length_drop, List.length_cons]
      simp only [ne_eq] at hrest
      omega

def next? (reader : LineReader) : Option (LineItem × LineReader) :=
  match h : reader.readLine? with
  | none => none
  | some (line, behind) =>
    have := length_of_readLine? h
    match LineItem.ofLine? behind.number line with
    | some item => some (item, behind)
    | none => next? behind
termination_by reader.unread.length

theorem length_of_next? {reader behind : LineReader} {item : LineItem}
    (h : reader.next? = some (item, behind)) : behind.unread.length < reader.unread.length := by
  fun_induction next? reader with
  | case1 => cases h
  | case2 reader line next hline hshorter found hfound =>
    cases h
    exact hshorter
  | case3 reader line next hline hshorter hblank ih => exact Nat.lt_trans (ih h) hshorter

def items (reader : LineReader) : List LineItem :=
  match h : reader.next? with
  | none => []
  | some (item, behind) =>
    have := length_of_next? h
    item :: items behind
termination_by reader.unread.length

end LineReader

def lineItems (content : List UInt8) : List LineItem := (LineReader.ofFile content).items

end PagedSearch
