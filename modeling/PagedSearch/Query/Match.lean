import PagedSearch.Number.Logarithm
import PagedSearch.Query.Basic

/-! # Matching and scoring -/

namespace PagedSearch

structure Bm25 where
  documentFrequency : Nat
  documentCount : Nat
  averageLength : Binary64
  boost : Binary32

namespace Bm25

def saturation : Binary32 := .ofDecimal false 12 (-1)

def lengthShare : Binary32 := .ofDecimal false 75 (-2)

def half : Binary32 := .ofDecimal false 5 (-1)

/-- The rarity of the term. One is added to the odds so that a term of most documents still has a
small positive weight. -/
def rarity (w : Bm25) : Binary32 :=
  if w.documentFrequency = 0 || w.documentCount = 0 then
    0
  else
    let count := .ofNat w.documentCount
    let frequency := .ofNat w.documentFrequency
    Binary.logarithm (1 + (count - frequency + half) / (frequency + half))

/-- The average length a field is measured against, one where no length is known. -/
def lengthScale (w : Bm25) : Binary32 :=
  if w.averageLength.isPositive then w.averageLength.convert else 1

def density (w : Bm25) (frequency length : Nat) : Binary32 :=
  if frequency = 0 then
    0
  else
    let f : Binary32 := .ofNat frequency
    let norm := 1 - lengthShare + lengthShare * (.ofNat length / w.lengthScale)
    f * (saturation + 1) / (f + saturation * norm)

def weight (w : Bm25) (frequency length : Nat) : Binary32 :=
  w.boost * w.rarity * w.density frequency length

end Bm25

/-- The term counts of one document, each below `2 ^ 32` as in an index entry. -/
structure TermCounts where
  frequency : FieldTerm → Nat
  length : String → Nat

structure Statistics where
  documentCount : Nat
  documentFrequency : FieldTerm → Nat
  averageLength : String → Binary64

structure Tally where
  total : Binary32
  carried : Bool

namespace Query

mutual

/-- The score of a document, if the query matches it. Every required clause has to match, no
prohibited one may, and some clause that is not prohibited has to match. The scores of matching
clauses are added in order and then boosted. -/
def score (doc : TermCounts) (stats : Statistics) : Query → Option Binary32
  | term t b =>
    if doc.frequency t = 0 then
      none
    else
      let weights : Bm25 :=
        ⟨stats.documentFrequency t, stats.documentCount, stats.averageLength t.field, b⟩
      some (weights.weight (doc.frequency t) (doc.length t.field))
  | bool clauses b =>
    match tally doc stats ⟨0, false⟩ clauses with
    | some t => if t.carried then some (t.total * b) else none
    | none => none

def tally (doc : TermCounts) (stats : Statistics) (t : Tally) :
    List (ClauseRole × Query) → Option Tally
  | [] => some t
  | (.required, q) :: rest =>
    match q.score doc stats with
    | some s => tally doc stats ⟨t.total + s, true⟩ rest
    | none => none
  | (.optional, q) :: rest =>
    match q.score doc stats with
    | some s => tally doc stats ⟨t.total + s, true⟩ rest
    | none => tally doc stats t rest
  | (.prohibited, q) :: rest =>
    match q.score doc stats with
    | some _ => none
    | none => tally doc stats t rest

end

end Query

end PagedSearch
