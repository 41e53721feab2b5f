import Mathlib.Data.Set.Basic
import PagedSearch.Proofs.Ranking.Matches
import PagedSearch.Proofs.Query.Group

/-!
# What queries find

A document is found by a combination of queries according to the roles of its clauses alone. Two
query texts in parentheses, joined by a connective or with one of them prohibited, find the
intersection, the union and the difference of what they find by themselves.
-/

namespace PagedSearch

namespace Query

variable {doc : TermCounts} {stats : Statistics}

/-- A clause lets a document pass: a required one by a match, a prohibited one without. -/
def Admits (doc : TermCounts) (stats : Statistics) (clause : ClauseRole × Query) : Prop :=
  match clause.1 with
  | .required => (clause.2.score doc stats).isSome = true
  | .optional => True
  | .prohibited => clause.2.score doc stats = none

def Carries (doc : TermCounts) (stats : Statistics) (clause : ClauseRole × Query) : Prop :=
  clause.1 ≠ .prohibited ∧ (clause.2.score doc stats).isSome = true

private theorem tally_carried_iff (t : Tally) (clauses : List (ClauseRole × Query)) :
    (∃ sum, tally doc stats t clauses = some sum ∧ sum.carried = true) ↔
      (∀ c ∈ clauses, Admits doc stats c) ∧
        (t.carried = true ∨ ∃ c ∈ clauses, Carries doc stats c) := by
  induction clauses generalizing t with
  | nil => simp [tally]
  | cons clause rest ih =>
    obtain ⟨role, q⟩ := clause
    rcases hscore : q.score doc stats with - | s <;> cases role <;>
      simp [tally, hscore, ih, Admits, Carries]

theorem isSome_score_bool_iff (clauses : List (ClauseRole × Query)) (boost : Binary32) :
    ((bool clauses boost).score doc stats).isSome = true ↔
      (∀ c ∈ clauses, Admits doc stats c) ∧ ∃ c ∈ clauses, Carries doc stats c := by
  have htally := @tally_carried_iff doc stats ⟨0, false⟩ clauses
  simp only [Bool.false_eq_true, false_or] at htally
  rw [← htally, score]
  rcases tally doc stats ⟨0, false⟩ clauses with - | sum
  · simp
  · cases hcarried : sum.carried <;> simp [hcarried]

end Query

namespace Index

variable {index : Index} {query : Query}

def found (index : Index) (query : Query) : Set Nat := {id | ∃ hit ∈ index.hits query, hit.id = id}

theorem mem_found {id : Nat} :
    id ∈ index.found query ↔ ∃ entry, index.entries[id]? = some entry ∧
      (query.score entry.counts index.statistics).isSome = true := by
  simp only [found, mem_hits, Matches, Set.mem_ofPred_eq, Option.isSome_iff_exists]
  constructor
  · rintro ⟨hit, ⟨entry, hentry, hscore⟩, rfl⟩
    exact ⟨entry, hentry, _, hscore⟩
  · rintro ⟨entry, hentry, score, hscore⟩
    exact ⟨⟨id, score⟩, ⟨entry, hentry, hscore⟩, rfl⟩

private theorem found_both (index : Index) (p q : Query) (boost : Binary32) :
    index.found (.bool [(.required, p), (.required, q)] boost) = index.found p ∩ index.found q := by
  ext id
  rcases hentry : index.entries[id]? with - | entry
  · simp [mem_found, hentry]
  · simp [mem_found, hentry, Query.isSome_score_bool_iff, Query.Admits, Query.Carries]
    tauto

private theorem found_either (index : Index) (p q : Query) (boost : Binary32) :
    index.found (.bool [(.optional, p), (.optional, q)] boost) = index.found p ∪ index.found q := by
  ext id
  rcases hentry : index.entries[id]? with - | entry
  · simp [mem_found, hentry]
  · simp [mem_found, hentry, Query.isSome_score_bool_iff, Query.Admits, Query.Carries]

private theorem found_except (index : Index) {role : ClauseRole} (hrole : role ≠ .prohibited)
    (p q : Query) (boost : Binary32) :
    index.found (.bool [(role, p), (.prohibited, q)] boost) = index.found p \ index.found q := by
  ext id
  rcases hentry : index.entries[id]? with - | entry
  · simp [mem_found, hentry]
  · cases role with
    | prohibited => exact absurd rfl hrole
    | required =>
      simp [mem_found, hentry, Query.isSome_score_bool_iff, Query.Admits, Query.Carries]
      tauto
    | optional =>
      simp [mem_found, hentry, Query.isSome_score_bool_iff, Query.Admits, Query.Carries, and_comm]

end Index

namespace Query

variable {scope : QueryScope} {p q r : Query} {first second : String} {more : List Char}

private theorem reads_clause_of_group {role : ClauseRole} {text : List Char}
    (hrole : splitPrefix text = (role, '(' :: (first.toList ++ ')' :: more)))
    (hp : parse scope first = .ok p) (hmore : more.head? ≠ some '^') :
    Reads scope (.clause (role, p)) text more := by
  have hboost : applyBoost p more = .ok (p, more) := by
    unfold applyBoost
    split
    · exact absurd rfl hmore
    · rfl
  exact .clause_of_splitPrefix hrole (reads_group_of_parse hp more) hboost

private theorem reads_of_leading_group (hp : parse scope first = .ok p)
    (hmore : more.head? ≠ some '^')
    (others : Reads scope (.clauses false [(.optional, p)] none r) more []) :
    Reads scope (.clauses false [] none r) ('(' :: (first.toList ++ ')' :: more)) [] :=
  .next rfl (by decide) rfl (reads_clause_of_group rfl hp hmore) others

private theorem reads_of_final_group {before : List (ClauseRole × Query)}
    {pending : Option Connective} {role : ClauseRole} {c : Char} {tail : List Char}
    (hinside : c ≠ ')')
    (hspace : Unicode.isSpace c = false)
    (hword : Connective.ofWord? ((c :: tail).takeWhile isBareChar) = none)
    (hrole : splitPrefix (c :: tail) = (role, '(' :: (second.toList ++ [')'])))
    (hq : parse scope second = .ok q)
    (hr : ofClauses (joinClause before pending (role, q)) none = .ok r) :
    Reads scope (.clauses false before pending r) (' ' :: c :: tail) [] := by
  have hopen : Unicode.trimStart (' ' :: c :: tail) = c :: tail := by
    have : Unicode.isSpace ' ' = true := by decide
    simp [Unicode.trimStart, this, hspace]
  exact .next hopen hinside hword (reads_clause_of_group hrole hq (by simp)) (.finish rfl hr)

def links : List (List Char × ClauseRole × ClauseRole) :=
  [(['A', 'N', 'D', ' '], .required, .required), (['O', 'R', ' '], .optional, .optional),
    (['N', 'O', 'T', ' '], .optional, .prohibited),
    (['A', 'N', 'D', ' ', 'N', 'O', 'T', ' '], .required, .prohibited),
    (['-'], .optional, .prohibited)]

private theorem parse_linked {text : String} (link : List Char) (roles : ClauseRole × ClauseRole)
    (hlink : (link, roles) ∈ links)
    (htext : text.toList =
      '(' :: (first.toList ++ ')' :: ' ' :: (link ++ '(' :: (second.toList ++ [')']))))
    (hp : parse scope first = .ok p) (hq : parse scope second = .ok q) :
    parse scope text = .ok (bool [(roles.1, p), (roles.2, q)] 1) := by
  rw [parse_eq_ok_iff, htext]
  refine reads_of_leading_group hp (by simp) ?_
  simp only [links, List.mem_cons, Prod.mk.injEq, List.not_mem_nil, or_false] at hlink
  rcases hlink with ⟨rfl, rfl⟩ | ⟨rfl, rfl⟩ | ⟨rfl, rfl⟩ | ⟨rfl, rfl⟩ | ⟨rfl, rfl⟩
  · refine .connective rfl (by decide) rfl (by simp) ?_
    exact reads_of_final_group (by decide) (by decide) rfl rfl hq rfl
  · refine .connective rfl (by decide) rfl (by simp) ?_
    exact reads_of_final_group (by decide) (by decide) rfl rfl hq rfl
  · exact reads_of_final_group (by decide) (by decide) rfl rfl hq rfl
  · refine .connective rfl (by decide) rfl (by simp) ?_
    exact reads_of_final_group (by decide) (by decide) rfl rfl hq rfl
  · exact reads_of_final_group (by decide) (by decide) rfl rfl hq rfl

/-- Joined by connectives or prohibited, two queries in parentheses find what the set operations
make of what they find by themselves. -/
theorem found_joined_groups (hp : parse scope first = .ok p) (hq : parse scope second = .ok q) :
    (∃ r, parse scope ("(" ++ first ++ ") AND (" ++ second ++ ")") = .ok r ∧
      ∀ index : Index, index.found r = index.found p ∩ index.found q) ∧
    (∃ r, parse scope ("(" ++ first ++ ") OR (" ++ second ++ ")") = .ok r ∧
      ∀ index : Index, index.found r = index.found p ∪ index.found q) ∧
    ∀ text ∈ ["(" ++ first ++ ") NOT (" ++ second ++ ")",
        "(" ++ first ++ ") AND NOT (" ++ second ++ ")", "(" ++ first ++ ") -(" ++ second ++ ")"],
      ∃ r, parse scope text = .ok r ∧
        ∀ index : Index, index.found r = index.found p \ index.found q := by
  refine ⟨?_, ?_, ?_⟩
  · exact ⟨_, parse_linked ['A', 'N', 'D', ' '] (.required, .required) (by simp [links])
      (by simp) hp hq, fun index => index.found_both p q 1⟩
  · exact ⟨_, parse_linked ['O', 'R', ' '] (.optional, .optional) (by simp [links])
      (by simp) hp hq, fun index => index.found_either p q 1⟩
  · intro text htext
    simp only [List.mem_cons, List.not_mem_nil, or_false] at htext
    rcases htext with rfl | rfl | rfl
    · exact ⟨_, parse_linked ['N', 'O', 'T', ' '] (.optional, .prohibited) (by simp [links])
        (by simp) hp hq, fun index => index.found_except (by decide) p q 1⟩
    · exact ⟨_, parse_linked ['A', 'N', 'D', ' ', 'N', 'O', 'T', ' '] (.required, .prohibited)
        (by simp [links]) (by simp) hp hq, fun index => index.found_except (by decide) p q 1⟩
    · exact ⟨_, parse_linked ['-'] (.optional, .prohibited) (by simp [links])
        (by simp) hp hq, fun index => index.found_except (by decide) p q 1⟩

theorem found_joined_groups_pens :
    ∃ p q, parse ⟨.standard, ["name"]⟩ "pen !!" = .ok p ∧
      parse ⟨.standard, ["name"]⟩ "-blue red" = .ok q ∧
      ∃ r, parse ⟨.standard, ["name"]⟩ "(pen !!) AND NOT (-blue red)" = .ok r ∧
        ∀ index : Index, index.found r = index.found p \ index.found q := by
  have hfirst : (parse ⟨.standard, ["name"]⟩ "pen !!").isOk = true := by decide +kernel
  have hsecond : (parse ⟨.standard, ["name"]⟩ "-blue red").isOk = true := by decide +kernel
  obtain ⟨p, hp⟩ := exists_of_isOk hfirst
  obtain ⟨q, hq⟩ := exists_of_isOk hsecond
  obtain ⟨-, -, hexcept⟩ := found_joined_groups hp hq
  exact ⟨p, q, hp, hq, hexcept "(pen !!) AND NOT (-blue red)" (by decide)⟩

end Query

end PagedSearch
