import PagedSearch.Number.Decimal

/-! # Queries -/

namespace PagedSearch

inductive ClauseRole where
  | required
  | optional
  | prohibited
deriving DecidableEq

namespace ClauseRole

def mark : ClauseRole → String
  | required => "+"
  | optional => ""
  | prohibited => "-"

end ClauseRole

structure FieldTerm where
  field : String
  text : String
deriving DecidableEq

inductive Query where
  | term (term : FieldTerm) (boost : Binary32)
  | bool (clauses : List (ClauseRole × Query)) (boost : Binary32)

namespace Query

def boost : Query → Binary32
  | term _ b | bool _ b => b

def withBoost (b : Binary32) : Query → Query
  | term t _ => term t b
  | bool clauses _ => bool clauses b

mutual

/-- The terms of a query that may take part in a match, in order. Terms under a clause that must
not match are left out. -/
def positiveTerms : Query → List FieldTerm
  | term t _ => [t]
  | bool clauses _ => clauseTerms clauses

def clauseTerms : List (ClauseRole × Query) → List FieldTerm
  | [] => []
  | (.prohibited, _) :: rest => clauseTerms rest
  | (.required, q) :: rest | (.optional, q) :: rest => positiveTerms q ++ clauseTerms rest

end

def termsFor (q : Query) (field : String) : List String :=
  let texts := (q.positiveTerms.filter (·.field == field)).map FieldTerm.text
  (texts.mergeSort (· ≤ ·)).eraseReps

def boostText (b : Binary32) : String := if b = 1 then "" else "^" ++ b.plainText

mutual

def description : Query → String
  | term t b => t.field ++ ":" ++ t.text ++ boostText b
  | bool clauses b =>
    let inner := " ".intercalate (clauseDescriptions clauses)
    if b = 1 then inner else "(" ++ inner ++ ")" ++ boostText b

def clauseDescriptions : List (ClauseRole × Query) → List String
  | [] => []
  | (role, q) :: rest =>
    let text := q.description
    (role.mark ++ if text.contains ' ' then "(" ++ text ++ ")" else text) ::
      clauseDescriptions rest

end

end Query

end PagedSearch
