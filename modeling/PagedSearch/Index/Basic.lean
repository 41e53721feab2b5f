import Std.Data.TreeMap.Basic
import PagedSearch.Text.Analysis
import PagedSearch.Store.Document
import PagedSearch.Query.Match

/-!
# Indexes

An index holds documents with their analyzed terms. Ids are given in order of arrival, from zero
on. Every stored value is analyzed through its text, so that numbers and truth values can be
searched for as well. The statistics that scoring needs are kept up to date document by document.
-/

namespace PagedSearch

structure TermTable where
  fields : Std.TreeMap String (Std.TreeMap String Nat)

namespace TermTable

def empty : TermTable := ⟨∅⟩

def count (table : TermTable) (t : FieldTerm) : Nat :=
  (table.fields.getD t.field ∅).getD t.text 0

def increment (table : TermTable) (t : FieldTerm) : TermTable :=
  ⟨table.fields.insert t.field
    ((table.fields.getD t.field ∅).insert t.text (table.count t + 1))⟩

end TermTable

/-- A stored document with the counts of its terms and the number of tokens in each of its
fields. These counters are words of 32 bits, taken as naturals: an index is described as long as
each of them stays below `2 ^ 32`. -/
structure IndexEntry where
  stored : Document
  frequencies : TermTable
  lengths : Std.TreeMap String Nat

namespace IndexEntry

def counts (entry : IndexEntry) : TermCounts where
  frequency := entry.frequencies.count
  length field := entry.lengths.getD field 0

end IndexEntry

/-- How many documents store a field, and how many tokens they hold in it together. Both stay below
`2 ^ 64`, as do the document frequencies of an index. -/
structure FieldTotal where
  documents : Nat
  tokens : Nat
deriving DecidableEq

/-- Documents in order of their ids with the statistics of their terms. -/
structure Index where
  entries : Array IndexEntry
  documentFrequencies : TermTable
  totals : Std.TreeMap String FieldTotal

structure Hit where
  id : Nat
  score : Binary32
deriving DecidableEq

namespace Index

def empty : Index := ⟨#[], .empty, ∅⟩

/-- Counts one token of the document that is being added. The first token of a term makes the
document one of those that contain it. -/
def countToken (field : String) (state : Index × IndexEntry) (text : String) :
    Index × IndexEntry :=
  let (index, entry) := state
  let t : FieldTerm := ⟨field, text⟩
  ({ index with
      documentFrequencies :=
        if entry.frequencies.count t = 0 then index.documentFrequencies.increment t
        else index.documentFrequencies },
    { entry with frequencies := entry.frequencies.increment t })

def countLength (field : String) (tokens : Nat) (state : Index × IndexEntry) :
    Index × IndexEntry :=
  let (index, entry) := state
  let total := index.totals.getD field ⟨0, 0⟩
  let documents := if entry.lengths.contains field then total.documents else total.documents + 1
  ({ index with totals := index.totals.insert field ⟨documents, total.tokens + tokens⟩ },
    { entry with lengths := entry.lengths.insert field (entry.lengths.getD field 0 + tokens) })

def countField (analyzer : Analyzer) (state : Index × IndexEntry) (field : StoredField) :
    Index × IndexEntry :=
  let terms := analyzer.terms field.value.display
  countLength field.name terms.length (terms.foldl (countToken field.name) state)

def add (analyzer : Analyzer) (index : Index) (document : Document) : Index :=
  let (counted, entry) :=
    document.fields.foldl (countField analyzer) (index, ⟨document, .empty, ∅⟩)
  { counted with entries := counted.entries.push entry }

def ofDocuments (analyzer : Analyzer) (documents : List Document) : Index :=
  documents.foldl (add analyzer) empty

def size (index : Index) : Nat := index.entries.size

def document? (index : Index) (id : Nat) : Option Document :=
  index.entries[id]?.map IndexEntry.stored

def fieldNames (index : Index) : List String := index.totals.keys

def documentFrequency (index : Index) (t : FieldTerm) : Nat := index.documentFrequencies.count t

/-- The average number of tokens of a field over the documents that store it, zero if none does. -/
def averageLength (index : Index) (field : String) : Binary64 :=
  match index.totals[field]? with
  | some total => if total.documents = 0 then 0 else .ofNat total.tokens / .ofNat total.documents
  | none => 0

def statistics (index : Index) : Statistics where
  documentCount := index.size
  documentFrequency := index.documentFrequency
  averageLength := index.averageLength

def hits (index : Index) (query : Query) : List Hit :=
  (index.entries.toList.zipIdx).filterMap fun (entry, id) =>
    (query.score entry.counts index.statistics).map fun score => ⟨id, score⟩

end Index

end PagedSearch
