import PagedSearch.Text.Analysis
import PagedSearch.Number.Reading
import PagedSearch.Query.Basic
import PagedSearch.Unicode.Basic

/-!
# Query texts

A query text is a sequence of clauses: words, phrases in double quotes, and groups in parentheses,
each with an optional field, prefix and boost. The words AND and OR join clauses. Every step of
the reader consumes part of the text, and the length of what remains bounds the recursion.
-/

namespace PagedSearch

inductive Connective where
  | and
  | or
deriving DecidableEq

namespace Connective

def ofWord? (word : List Char) : Option Connective :=
  if word = ['A', 'N', 'D'] then some .and
  else if word = ['O', 'R'] then some .or
  else none

def word : Connective → String
  | and => "AND"
  | or => "OR"

def name : Connective → String
  | and => "And"
  | or => "Or"

end Connective

inductive QueryFault where
  | empty
  | missingParenthesis
  | unexpectedParenthesis
  | unexpectedOperator (operator : Connective)
  | danglingOperator (operator : Connective)
  | emptyGroup
  | expectedTerm
  | noDefaultField (text : String)
  | missingTerm (field : String)
  | unterminatedPhrase (phrase : String)
  | invalidBoost (number : String)
deriving DecidableEq

namespace QueryFault

def reason : QueryFault → String
  | empty => "empty query"
  | missingParenthesis => "missing ')'"
  | unexpectedParenthesis => "unexpected ')'"
  | unexpectedOperator operator => "unexpected '" ++ operator.word ++ "'"
  | danglingOperator operator => "dangling operator " ++ operator.name
  | emptyGroup => "empty group"
  | expectedTerm => "expected a term"
  | noDefaultField text => "no default field for '" ++ text ++ "'"
  | missingTerm field => "missing term after '" ++ field ++ ":'"
  | unterminatedPhrase phrase => "unterminated quoted phrase \"" ++ phrase
  | invalidBoost number => "invalid boost '^" ++ number ++ "'"

end QueryFault

structure QueryScope where
  analyzer : Analyzer
  fields : List String

namespace Query

def isBareChar (c : Char) : Bool :=
  !Unicode.isSpace c && c != '(' && c != ')' && c != '"' && c != '^'

def queryOfTerms? (field : String) : List String → Option Query
  | [] => none
  | [text] => some (term ⟨field, text⟩ 1)
  | texts => some (bool (texts.map fun text => (.required, term ⟨field, text⟩ 1)) 1)

def ofText (analyzer : Analyzer) (fields : List String) (text : String) :
    Except QueryFault Query :=
  if fields.isEmpty then
    .error (.noDefaultField text)
  else
    match fields.filterMap fun field => queryOfTerms? field (analyzer.terms text) with
    | [query] => .ok query
    | queries => .ok (bool (queries.map fun query => (.optional, query)) 1)

/-- Splits a word at its first colon. The field before it may not be empty. -/
def splitField? (word : List Char) : Option (List Char × List Char) :=
  match word.dropWhile (· ≠ ':') with
  | ':' :: rest => if word.head? = some ':' then none else some (word.takeWhile (· ≠ ':'), rest)
  | _ => none

def splitPrefix (text : List Char) : ClauseRole × List Char :=
  match text with
  | '+' :: rest => (.required, rest)
  | '-' :: rest => (.prohibited, rest)
  | _ =>
    if text.takeWhile isBareChar = ['N', 'O', 'T'] then
      (.prohibited, Unicode.trimStart (text.dropWhile isBareChar))
    else
      (.optional, text)

def splitPhrase (text : List Char) : Except QueryFault (String × List Char) :=
  match text.dropWhile (· ≠ '"') with
  | _ :: rest => .ok (.ofList (text.takeWhile (· ≠ '"')), rest)
  | [] => .error (.unterminatedPhrase (.ofList text))

def isBoostChar (c : Char) : Bool := isDigit c || c == '.'

def applyBoost (query : Query) (text : List Char) : Except QueryFault (Query × List Char) :=
  match text with
  | '^' :: rest =>
    let number := rest.takeWhile isBoostChar
    match readBinary? .single number with
    | some b => .ok (query.withBoost b, rest.dropWhile isBoostChar)
    | none => .error (.invalidBoost (.ofList number))
  | _ => .ok (query, text)

/-- Adds a clause to the clauses before it, latest first. AND makes the optional clauses on both
of its sides required. -/
def joinClause (clauses : List (ClauseRole × Query)) (pending : Option Connective)
    (clause : ClauseRole × Query) : List (ClauseRole × Query) :=
  let require : ClauseRole → ClauseRole
    | .optional => .required
    | role => role
  match pending, clauses with
  | some .and, (role, query) :: rest =>
    (require clause.1, clause.2) :: (require role, query) :: rest
  | some .and, [] => [(require clause.1, clause.2)]
  | _, _ => clause :: clauses

/-- The query of a complete sequence of clauses, latest first. A single clause stands for itself
unless it is prohibited. -/
def ofClauses (clauses : List (ClauseRole × Query)) (pending : Option Connective) :
    Except QueryFault Query :=
  match pending with
  | some operator => .error (.danglingOperator operator)
  | none =>
    match clauses with
    | [] => .error .emptyGroup
    | [(.required, query)] | [(.optional, query)] => .ok query
    | clauses => .ok (bool clauses.reverse 1)

theorem splitPrefix_length (text : List Char) : (splitPrefix text).2.length ≤ text.length := by
  unfold splitPrefix
  split
  · simp
  · simp
  · split
    · exact ((List.dropWhile_sublist _).trans (List.dropWhile_sublist _)).length_le
    · exact Nat.le_refl _

theorem splitPhrase_length {text rest : List Char} {phrase : String}
    (h : splitPhrase text = .ok (phrase, rest)) : rest.length < text.length := by
  unfold splitPhrase at h
  split at h
  · next c tail heq =>
    simp only [Except.ok.injEq, Prod.mk.injEq] at h
    have := (List.dropWhile_sublist (· ≠ '"') (l := text)).length_le
    rw [heq, List.length_cons] at this
    rw [← h.2]
    omega
  · simp at h

private theorem applyBoost_length {query boosted : Query} {text rest : List Char}
    (h : applyBoost query text = .ok (boosted, rest)) : rest.length ≤ text.length := by
  unfold applyBoost at h
  split at h
  · next tail =>
    dsimp only at h
    split at h
    · simp only [Except.ok.injEq, Prod.mk.injEq] at h
      have := (List.dropWhile_sublist isBoostChar (l := tail)).length_le
      rw [← h.2, List.length_cons]
      omega
    · simp at h
  · simp only [Except.ok.injEq, Prod.mk.injEq] at h
    simp [h.2]

abbrev Remains (text : List Char) := { rest : List Char // rest.length ≤ text.length }

abbrev Shorter (text : List Char) := { rest : List Char // rest.length < text.length }

def noRest (text : List Char) : Remains text := ⟨[], Nat.zero_le _⟩

def properRest {text : List Char} (rest : List Char) (h : rest.length < text.length) :
    Remains text :=
  ⟨rest, Nat.le_of_lt h⟩

def ofPart {part text : List Char} (h : part.length ≤ text.length) (read : Query × Remains part) :
    Query × Remains text :=
  (read.1, ⟨read.2.1, Nat.le_trans read.2.2 h⟩)

def ofProperPart {part text : List Char} (h : part.length < text.length)
    (read : Query × Remains part) : Query × Shorter text :=
  (read.1, ⟨read.2.1, Nat.lt_of_le_of_lt read.2.2 h⟩)

theorem length_lt_of_trimStart {text rest : List Char} {c : Char}
    (h : Unicode.trimStart text = c :: rest) : rest.length < text.length := by
  have := (List.dropWhile_sublist Unicode.isSpace (l := text)).length_le
  rw [Unicode.trimStart] at h
  rwa [h] at this

theorem afterWord_length (text : List Char) :
    (text.dropWhile isBareChar).length ≤ text.length :=
  (List.dropWhile_sublist isBareChar).length_le

theorem afterWord_length_le {text rest : List Char} (h : rest.length < text.length) :
    (rest.dropWhile isBareChar).length ≤ text.length :=
  Nat.le_of_lt (Nat.lt_of_le_of_lt (afterWord_length rest) h)

theorem afterWord_length_lt (c : Char) (rest : List Char) :
    (rest.dropWhile isBareChar).length < (c :: rest).length :=
  Nat.lt_succ_of_le (afterWord_length rest)

theorem length_le_of_shorter {text rest after : List Char} {c : Char}
    (h : rest.length < text.length) (lt : after.length < (c :: rest).length) :
    after.length ≤ text.length :=
  Nat.le_trans (Nat.le_of_lt_succ lt) (Nat.le_of_lt h)

theorem length_lt_of_afterWord {rest tail : List Char} {c d : Char}
    (h : rest.dropWhile isBareChar = d :: tail) : tail.length < (c :: rest).length := by
  have := afterWord_length rest
  rw [h, List.length_cons] at this
  exact Nat.lt_succ_of_lt this

theorem length_lt_cons (c : Char) (rest : List Char) : rest.length < (c :: rest).length :=
  Nat.lt_succ_self _

def readPhrase (analyzer : Analyzer) (fields : List String) (text : List Char) :
    Except QueryFault (Query × Remains text) :=
  match h : splitPhrase text with
  | .ok (phrase, rest) =>
    (ofText analyzer fields phrase).map (·, properRest rest (splitPhrase_length h))
  | .error fault => .error fault

theorem applyBoost_length_lt {query boosted : Query} {text after rest : List Char}
    (h : applyBoost query after = .ok (boosted, rest))
    (lt : after.length < (splitPrefix text).2.length) : rest.length < text.length :=
  Nat.lt_of_le_of_lt (applyBoost_length h) (Nat.lt_of_lt_of_le lt (splitPrefix_length text))

mutual

/-- Reads clauses up to the end of the text, or up to the parenthesis that closes a group, which
is consumed. Clauses already read come latest first. -/
def readClauses (scope : QueryScope) (grouped : Bool) (clauses : List (ClauseRole × Query))
    (pending : Option Connective) (text : List Char) :
    Except QueryFault (Query × Remains text) :=
  match h : Unicode.trimStart text with
  | [] =>
    if grouped then .error .missingParenthesis
    else (ofClauses clauses pending).map (·, noRest text)
  | c :: rest =>
    have total := length_lt_of_trimStart h
    if c = ')' then
      if grouped then (ofClauses clauses pending).map (·, properRest rest total)
      else .error .unexpectedParenthesis
    else
      match Connective.ofWord? ((c :: rest).takeWhile isBareChar) with
      | some operator =>
        if clauses.isEmpty || pending.isSome then .error (.unexpectedOperator operator)
        else
          (readClauses scope grouped clauses (some operator) (rest.dropWhile isBareChar)).map
            (ofPart (afterWord_length_le total))
      | none =>
        match readClause scope (c :: rest) with
        | .ok (clause, ⟨after, lt⟩) =>
          (readClauses scope grouped (joinClause clauses pending clause) none after).map
            (ofPart (length_le_of_shorter total lt))
        | .error fault => .error fault
termination_by 3 * text.length + 2
decreasing_by
  · have := afterWord_length rest
    omega
  · simp only [List.length_cons]
    omega
  · simp only [List.length_cons] at lt
    omega

def readClause (scope : QueryScope) (text : List Char) :
    Except QueryFault ((ClauseRole × Query) × Shorter text) :=
  match readPrimary scope (splitPrefix text).2 with
  | .ok (query, ⟨after, lt⟩) =>
    match h : applyBoost query after with
    | .ok (boosted, rest) =>
      .ok (((splitPrefix text).1, boosted), ⟨rest, applyBoost_length_lt h lt⟩)
    | .error fault => .error fault
  | .error fault => .error fault
termination_by 3 * text.length + 1
decreasing_by
  have := splitPrefix_length text
  omega

def readPrimary (scope : QueryScope) (text : List Char) :
    Except QueryFault (Query × Shorter text) :=
  match text with
  | [] => .error .expectedTerm
  | c :: rest =>
    if c = '(' then
      (readClauses scope true [] none rest).map (ofProperPart (length_lt_cons c rest))
    else if c = '"' then
      (readPhrase scope.analyzer scope.fields rest).map (ofProperPart (length_lt_cons c rest))
    else if isBareChar c then
      let word := c :: rest.takeWhile isBareChar
      match splitField? word with
      | none =>
        (ofText scope.analyzer scope.fields (.ofList word)).map
          (·, ⟨rest.dropWhile isBareChar, afterWord_length_lt c rest⟩)
      | some (field, text@(_ :: _)) =>
        (ofText scope.analyzer [.ofList field] (.ofList text)).map
          (·, ⟨rest.dropWhile isBareChar, afterWord_length_lt c rest⟩)
      | some (field, []) =>
        match h : rest.dropWhile isBareChar with
        | '"' :: phrase =>
          (readPhrase scope.analyzer [.ofList field] phrase).map
            (ofProperPart (length_lt_of_afterWord h))
        | '(' :: group =>
          (readClauses { scope with fields := [.ofList field] } true [] none group).map
            (ofProperPart (length_lt_of_afterWord h))
        | _ => .error (.missingTerm (.ofList field))
    else .error .expectedTerm
termination_by 3 * text.length
decreasing_by
  · simp only [List.length_cons]
    omega
  · have := length_lt_of_afterWord (c := c) h
    omega

end

def parse (scope : QueryScope) (text : String) : Except QueryFault Query :=
  if Unicode.isBlank text.toList then
    .error .empty
  else
    (readClauses scope false [] none text.toList).map Prod.fst

end Query

end PagedSearch
