import Mathlib.Data.List.TakeWhile
import PagedSearch.Query.Syntax
import PagedSearch.Proofs.Outcome

/-! # The grammar of query texts -/

namespace PagedSearch.Query

/-- What a stretch of text is read as. Clauses continue those before them, latest first, and end
with the text or, in a group, with the parenthesis that closes it. -/
inductive Reading where
  | clauses (grouped : Bool) (before : List (ClauseRole × Query)) (pending : Option Connective)
      (query : Query)
  | clause (clause : ClauseRole × Query)
  | primary (query : Query)

inductive Reads : QueryScope → Reading → List Char → List Char → Prop where
  | finish {scope before pending query text}
      (blank : Unicode.trimStart text = [])
      (complete : ofClauses before pending = .ok query) :
      Reads scope (.clauses false before pending query) text []
  | close {scope before pending query text rest}
      (closed : Unicode.trimStart text = ')' :: rest)
      (complete : ofClauses before pending = .ok query) :
      Reads scope (.clauses true before pending query) text rest
  | connective {scope grouped before query text c tail rest operator}
      (opens : Unicode.trimStart text = c :: tail)
      (inside : c ≠ ')')
      (word : Connective.ofWord? ((c :: tail).takeWhile isBareChar) = some operator)
      (follows : before ≠ [])
      (others : Reads scope (.clauses grouped before (some operator) query)
        (tail.dropWhile isBareChar) rest) :
      Reads scope (.clauses grouped before none query) text rest
  | next {scope grouped before pending query text c tail after rest clause}
      (opens : Unicode.trimStart text = c :: tail)
      (inside : c ≠ ')')
      (word : Connective.ofWord? ((c :: tail).takeWhile isBareChar) = none)
      (first : Reads scope (.clause clause) (c :: tail) after)
      (others : Reads scope (.clauses grouped (joinClause before pending clause) none query)
        after rest) :
      Reads scope (.clauses grouped before pending query) text rest
  | boosted {scope query boosted text after rest}
      (inner : Reads scope (.primary query) (splitPrefix text).2 after)
      (boost : applyBoost query after = .ok (boosted, rest)) :
      Reads scope (.clause ((splitPrefix text).1, boosted)) text rest
  | group {scope query text rest}
      (inner : Reads scope (.clauses true [] none query) text rest) :
      Reads scope (.primary query) ('(' :: text) rest
  | phrase {scope query text phrase rest}
      (quoted : splitPhrase text = .ok (phrase, rest))
      (terms : ofText scope.analyzer scope.fields phrase = .ok query) :
      Reads scope (.primary query) ('"' :: text) rest
  | word {scope query text c}
      (bare : isBareChar c = true)
      (unqualified : splitField? (c :: text.takeWhile isBareChar) = none)
      (terms : ofText scope.analyzer scope.fields
        (.ofList (c :: text.takeWhile isBareChar)) = .ok query) :
      Reads scope (.primary query) (c :: text) (text.dropWhile isBareChar)
  | fieldWord {scope query text c field word}
      (bare : isBareChar c = true)
      (qualified : splitField? (c :: text.takeWhile isBareChar) = some (field, word))
      (wordy : word ≠ [])
      (terms : ofText scope.analyzer [.ofList field] (.ofList word) = .ok query) :
      Reads scope (.primary query) (c :: text) (text.dropWhile isBareChar)
  | fieldPhrase {scope query text c field quotation phrase rest}
      (bare : isBareChar c = true)
      (qualified : splitField? (c :: text.takeWhile isBareChar) = some (field, []))
      (opens : text.dropWhile isBareChar = '"' :: quotation)
      (quoted : splitPhrase quotation = .ok (phrase, rest))
      (terms : ofText scope.analyzer [.ofList field] phrase = .ok query) :
      Reads scope (.primary query) (c :: text) rest
  | fieldGroup {scope query text c field group rest}
      (bare : isBareChar c = true)
      (qualified : splitField? (c :: text.takeWhile isBareChar) = some (field, []))
      (opens : text.dropWhile isBareChar = '(' :: group)
      (inner : Reads { scope with fields := [.ofList field] } (.clauses true [] none query)
        group rest) :
      Reads scope (.primary query) (c :: text) rest

def Reading.IsAnswered (scope : QueryScope) (text rest : List Char) : Reading → Prop
  | .clauses grouped before pending query =>
    ∃ h, readClauses scope grouped before pending text = .ok (query, ⟨rest, h⟩)
  | .clause c => ∃ h, readClause scope text = .ok (c, ⟨rest, h⟩)
  | .primary query => ∃ h, readPrimary scope text = .ok (query, ⟨rest, h⟩)

theorem ne_of_isBareChar {c : Char} (h : isBareChar c = true) : c ≠ '(' ∧ c ≠ '"' := by
  constructor <;> (rintro rfl; revert h; decide)

private theorem readPhrase_eq_ok_iff {analyzer : Analyzer} {fields : List String}
    {text rest : List Char} {query : Query} :
    (∃ h, readPhrase analyzer fields text = .ok (query, ⟨rest, h⟩)) ↔
      ∃ phrase, splitPhrase text = .ok (phrase, rest) ∧ ofText analyzer fields phrase = .ok query := by
  constructor
  · rintro ⟨h, hread⟩
    rw [readPhrase] at hread
    split at hread
    · rename_i phrase after quoted
      obtain ⟨inner, terms, heq⟩ := map_eq_ok_iff.mp hread
      cases heq
      exact ⟨phrase, quoted, terms⟩
    · cases hread
  · rintro ⟨phrase, quoted, terms⟩
    refine ⟨Nat.le_of_lt (splitPhrase_length quoted), ?_⟩
    rw [readPhrase]
    split
    · rename_i heq
      cases quoted.symm.trans heq
      rw [terms]
      rfl
    · rename_i heq
      cases quoted.symm.trans heq

theorem isAnswered_of_reads {scope : QueryScope} {reading : Reading} {text rest : List Char}
    (h : Reads scope reading text rest) : reading.IsAnswered scope text rest := by
  induction h with
  | finish blank complete =>
    refine ⟨Nat.zero_le _, ?_⟩
    rw [readClauses]
    split
    · simp [complete, Except.map, noRest]
    · simp_all
  | close closed complete =>
    refine ⟨Nat.le_of_lt (length_lt_of_trimStart closed), ?_⟩
    rw [readClauses]
    split
    · simp_all
    · rename_i c tail heq
      obtain ⟨rfl, rfl⟩ := List.cons.inj (closed.symm.trans heq)
      simp [complete, Except.map, properRest]
  | @connective scope grouped before query text c tail rest operator opens inside word follows
      others ih =>
    obtain ⟨le, hothers⟩ := ih
    refine ⟨Nat.le_trans le (afterWord_length_le (length_lt_of_trimStart opens)), ?_⟩
    rw [readClauses]
    split
    · simp_all
    · rename_i d tail' heq
      obtain ⟨rfl, rfl⟩ := List.cons.inj (opens.symm.trans heq)
      simp [inside, word, follows, hothers, Except.map, ofPart]
  | next opens inside word first others ihFirst ihOthers =>
    obtain ⟨lt, hfirst⟩ := ihFirst
    obtain ⟨le, hothers⟩ := ihOthers
    refine ⟨Nat.le_trans le (length_le_of_shorter (length_lt_of_trimStart opens) lt), ?_⟩
    rw [readClauses]
    split
    · simp_all
    · rename_i d tail' heq
      obtain ⟨rfl, rfl⟩ := List.cons.inj (opens.symm.trans heq)
      simp [inside, word, hfirst, hothers, Except.map, ofPart]
  | boosted inner boost ih =>
    obtain ⟨lt, hinner⟩ := ih
    refine ⟨applyBoost_length_lt boost lt, ?_⟩
    rw [readClause, hinner]
    dsimp only
    split
    · rename_i heq
      rw [boost] at heq
      cases heq
      rfl
    · simp_all
  | group inner ih =>
    obtain ⟨le, hinner⟩ := ih
    refine ⟨Nat.lt_succ_of_le le, ?_⟩
    rw [readPrimary, if_pos rfl, hinner]
    rfl
  | phrase quoted terms =>
    obtain ⟨le, hphrase⟩ := readPhrase_eq_ok_iff.mpr ⟨_, quoted, terms⟩
    refine ⟨Nat.lt_succ_of_le le, ?_⟩
    rw [readPrimary, if_neg (by decide), if_pos rfl, hphrase]
    rfl
  | @word scope query text c bare unqualified terms =>
    obtain ⟨hgroup, hquote⟩ := ne_of_isBareChar bare
    refine ⟨afterWord_length_lt c text, ?_⟩
    rw [readPrimary, if_neg hgroup, if_neg hquote, if_pos bare]
    simp only [unqualified, terms]
    rfl
  | @fieldWord scope query text c field word bare qualified wordy terms =>
    obtain ⟨hgroup, hquote⟩ := ne_of_isBareChar bare
    refine ⟨afterWord_length_lt c text, ?_⟩
    obtain ⟨d, more, rfl⟩ := List.exists_cons_of_ne_nil wordy
    rw [readPrimary, if_neg hgroup, if_neg hquote, if_pos bare]
    simp only [qualified, terms]
    rfl
  | fieldPhrase bare qualified opens quoted terms =>
    obtain ⟨hgroup, hquote⟩ := ne_of_isBareChar bare
    obtain ⟨le, hphrase⟩ := readPhrase_eq_ok_iff.mpr ⟨_, quoted, terms⟩
    refine ⟨Nat.lt_of_le_of_lt le (length_lt_of_afterWord opens), ?_⟩
    rw [readPrimary, if_neg hgroup, if_neg hquote, if_pos bare]
    simp only [qualified]
    split
    · rename_i heq
      obtain ⟨-, rfl⟩ := List.cons.inj (opens.symm.trans heq)
      rw [hphrase]
      rfl
    · rename_i heq
      cases opens.symm.trans heq
    · simp_all
  | fieldGroup bare qualified opens inner ih =>
    obtain ⟨hgroup, hquote⟩ := ne_of_isBareChar bare
    obtain ⟨le, hinner⟩ := ih
    refine ⟨Nat.lt_of_le_of_lt le (length_lt_of_afterWord opens), ?_⟩
    rw [readPrimary, if_neg hgroup, if_neg hquote, if_pos bare]
    simp only [qualified]
    split
    · rename_i heq
      cases opens.symm.trans heq
    · rename_i heq
      obtain ⟨-, rfl⟩ := List.cons.inj (opens.symm.trans heq)
      rw [hinner]
      rfl
    · simp_all

variable {scope : QueryScope} {text rest : List Char} {query : Query}

private theorem reads_primary
    (ih : ∀ fields part query rest, part.length < text.length →
      (Reading.clauses true [] none query).IsAnswered { scope with fields } part rest →
      Reads { scope with fields } (.clauses true [] none query) part rest)
    (h : (Reading.primary query).IsAnswered scope text rest) :
    Reads scope (.primary query) text rest := by
  obtain ⟨lt, hread⟩ := h
  cases text with
  | nil =>
    rw [readPrimary] at hread
    cases hread
  | cons c tail =>
    rw [readPrimary] at hread
    split at hread
    · rename_i hc
      subst hc
      obtain ⟨⟨inner, after, le⟩, hinner, heq⟩ := map_eq_ok_iff.mp hread
      cases heq
      exact .group (ih scope.fields tail _ _ (Nat.lt_succ_self _) ⟨le, hinner⟩)
    split at hread
    · rename_i hc
      subst hc
      obtain ⟨⟨inner, after, le⟩, hinner, heq⟩ := map_eq_ok_iff.mp hread
      cases heq
      obtain ⟨phrase, quoted, terms⟩ := readPhrase_eq_ok_iff.mp ⟨le, hinner⟩
      exact .phrase quoted terms
    split at hread
    · rename_i bare
      dsimp only at hread
      split at hread
      · rename_i unqualified
        obtain ⟨inner, terms, heq⟩ := map_eq_ok_iff.mp hread
        cases heq
        exact .word bare unqualified terms
      · rename_i field d word qualified
        obtain ⟨inner, terms, heq⟩ := map_eq_ok_iff.mp hread
        cases heq
        exact .fieldWord bare qualified (List.cons_ne_nil d word) terms
      · rename_i field qualified
        split at hread
        · rename_i quotation opens
          obtain ⟨⟨inner, after, le⟩, hinner, heq⟩ := map_eq_ok_iff.mp hread
          cases heq
          obtain ⟨phrase, quoted, terms⟩ := readPhrase_eq_ok_iff.mp ⟨le, hinner⟩
          exact .fieldPhrase bare qualified opens quoted terms
        · rename_i group opens
          obtain ⟨⟨inner, after, le⟩, hinner, heq⟩ := map_eq_ok_iff.mp hread
          cases heq
          exact .fieldGroup bare qualified opens
            (ih [.ofList field] group _ _ (length_lt_of_afterWord opens) ⟨le, hinner⟩)
        · cases hread
    · cases hread

private theorem reads_clause {clause : ClauseRole × Query}
    (ih : ∀ query after, (Reading.primary query).IsAnswered scope (splitPrefix text).2 after →
      Reads scope (.primary query) (splitPrefix text).2 after)
    (h : (Reading.clause clause).IsAnswered scope text rest) :
    Reads scope (.clause clause) text rest := by
  obtain ⟨lt, hread⟩ := h
  rw [readClause] at hread
  split at hread
  · rename_i inner after le hinner
    split at hread
    · rename_i boosted behind boost
      cases hread
      exact .boosted (ih inner after ⟨le, hinner⟩) boost
    · cases hread
  · cases hread

private theorem reads_clauses {grouped : Bool} {before : List (ClauseRole × Query)}
    {pending : Option Connective}
    (ihClause : ∀ clause after,
      (Reading.clause clause).IsAnswered scope (Unicode.trimStart text) after →
      Reads scope (.clause clause) (Unicode.trimStart text) after)
    (ihClauses : ∀ before pending part, part.length < text.length →
      (Reading.clauses grouped before pending query).IsAnswered scope part rest →
      Reads scope (.clauses grouped before pending query) part rest)
    (h : (Reading.clauses grouped before pending query).IsAnswered scope text rest) :
    Reads scope (.clauses grouped before pending query) text rest := by
  obtain ⟨_, hread⟩ := h
  rw [readClauses] at hread
  split at hread
  · rename_i blank
    cases grouped with
    | true => cases hread
    | false =>
      obtain ⟨inner, complete, heq⟩ := map_eq_ok_iff.mp hread
      cases heq
      exact .finish blank complete
  · rename_i c tail opens
    have shorter := length_lt_of_trimStart opens
    dsimp only at hread
    split at hread
    · rename_i hc
      subst hc
      cases grouped with
      | true =>
        obtain ⟨inner, complete, heq⟩ := map_eq_ok_iff.mp hread
        cases heq
        exact .close opens complete
      | false => cases hread
    rename_i inside
    split at hread
    · rename_i operator word
      split at hread
      · cases hread
      · rename_i hwaits
        simp only [Bool.or_eq_true, not_or, Bool.not_eq_true, Option.isSome_eq_false_iff,
          List.isEmpty_eq_false_iff, Option.isNone_iff_eq_none] at hwaits
        obtain ⟨follows, rfl⟩ := hwaits
        obtain ⟨⟨inner, after, le⟩, hinner, heq⟩ := map_eq_ok_iff.mp hread
        cases heq
        exact .connective opens inside word follows
          (ihClauses before _ _ (Nat.lt_of_le_of_lt (afterWord_length tail) shorter) ⟨le, hinner⟩)
    · rename_i word
      split at hread
      · rename_i clause after lt hclause
        obtain ⟨⟨inner, behind, le⟩, hinner, heq⟩ := map_eq_ok_iff.mp hread
        cases heq
        rw [opens] at ihClause
        exact .next opens inside word (ihClause clause after ⟨lt, hclause⟩)
          (ihClauses _ _ after (Nat.lt_of_le_of_lt (Nat.le_of_lt_succ lt) shorter) ⟨le, hinner⟩)
      · cases hread

private theorem reads_clauses_of_isAnswered {grouped : Bool} {before : List (ClauseRole × Query)}
    {pending : Option Connective}
    (h : (Reading.clauses grouped before pending query).IsAnswered scope text rest) :
    Reads scope (.clauses grouped before pending query) text rest := by
  induction hn : text.length using Nat.strongRecOn
    generalizing scope grouped before pending query text rest with
  | ind n ih =>
    subst hn
    have hrest (part : List Char) :
        (splitPrefix (Unicode.trimStart part)).2.length ≤ part.length :=
      Nat.le_trans (splitPrefix_length _) (List.dropWhile_sublist _).length_le
    refine reads_clauses ?_ (fun before pending part hlt hpart => ih _ hlt hpart rfl) h
    refine fun clause after => reads_clause fun query after => reads_primary ?_
    intro fields part query rest hlt hpart
    exact ih _ (Nat.lt_of_lt_of_le hlt (hrest text)) hpart rfl

/-- The reader follows the rules of the grammar and no others. -/
theorem reads_iff_isAnswered {reading : Reading} :
    Reads scope reading text rest ↔ reading.IsAnswered scope text rest := by
  refine ⟨isAnswered_of_reads, fun h => ?_⟩
  cases reading with
  | clauses => exact reads_clauses_of_isAnswered h
  | primary => exact reads_primary (fun _ _ _ _ _ => reads_clauses_of_isAnswered) h
  | clause =>
    refine reads_clause (fun query after => reads_primary ?_) h
    exact fun _ _ _ _ _ => reads_clauses_of_isAnswered

theorem Reads.clause_of_splitPrefix {role : ClauseRole} {part after : List Char} {boosted : Query}
    (hsplit : splitPrefix text = (role, part)) (inner : Reads scope (.primary query) part after)
    (boost : applyBoost query after = .ok (boosted, rest)) :
    Reads scope (.clause (role, boosted)) text rest := by
  have hrole : (splitPrefix text).1 = role := by rw [hsplit]
  rw [← hrole]
  refine .boosted ?_ boost
  rwa [hsplit]

private theorem Reads.rest_eq_nil {before : List (ClauseRole × Query)} {pending : Option Connective}
    (h : Reads scope (.clauses false before pending query) text rest) : rest = [] := by
  generalize hr : Reading.clauses false before pending query = reading at h
  induction h generalizing before pending with
  | finish => rfl
  | connective _ _ _ _ _ ih | next _ _ _ _ _ _ ih =>
    cases hr
    exact ih rfl
  | close | boosted | group | phrase | word | fieldWord | fieldPhrase | fieldGroup => cases hr

private theorem Reads.not_blank (h : Reads scope (.clauses false [] none query) text rest) :
    Unicode.isBlank text = false := by
  have hopen : Unicode.trimStart text ≠ [] := by
    cases h with
    | finish _ complete => cases complete
    | connective opens => simp [opens]
    | next opens => simp [opens]
  rw [Unicode.isBlank, Bool.eq_false_iff]
  intro hall
  exact hopen (List.dropWhile_eq_nil_iff.mpr (List.all_eq_true.mp hall))

/-- A text is a query if the clauses of the grammar reach from its start to its end. -/
theorem parse_eq_ok_iff {text : String} :
    parse scope text = .ok query ↔ Reads scope (.clauses false [] none query) text.toList [] := by
  rw [parse]
  constructor
  · intro h
    split at h
    · cases h
    · obtain ⟨⟨inner, after, le⟩, hread, heq⟩ := map_eq_ok_iff.mp h
      cases heq
      have hreads : Reads scope (.clauses false [] none inner) text.toList after :=
        reads_iff_isAnswered.mpr ⟨le, hread⟩
      rwa [hreads.rest_eq_nil] at hreads
  · intro h
    obtain ⟨le, hread⟩ := reads_iff_isAnswered.mp h
    rw [if_neg (by simp [h.not_blank]), hread]
    rfl

end PagedSearch.Query
