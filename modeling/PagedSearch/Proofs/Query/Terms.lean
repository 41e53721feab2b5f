import Mathlib.Data.List.Sort
import Mathlib.Data.String.Basic
import PagedSearch.Proofs.Query.Matching

/-! # The terms of a query -/

namespace PagedSearch

section Repetitions

variable {α : Type} [BEq α]

private theorem eraseReps_loop (a : α) (rest acc : List α) :
    List.eraseRepsBy.loop (· == ·) a rest acc =
      acc.reverse ++ List.eraseRepsBy.loop (· == ·) a rest [] := by
  induction rest generalizing a acc with
  | nil => simp [List.eraseRepsBy.loop]
  | cons b rest ih =>
    cases hab : a == b with
    | true => simp only [List.eraseRepsBy.loop, hab, ih a acc]
    | false =>
      simp only [List.eraseRepsBy.loop, hab]
      rw [ih b (a :: acc), ih b [a]]
      simp

variable [LinearOrder α] [LawfulBEq α]

private theorem eraseReps_cons_cons (a b : α) (rest : List α) :
    (a :: b :: rest).eraseReps =
      if a = b then (b :: rest).eraseReps else a :: (b :: rest).eraseReps := by
  by_cases hab : a = b
  · subst hab
    simp [List.eraseReps, List.eraseRepsBy, List.eraseRepsBy.loop]
  · have hbeq : (a == b) = false := by simpa using hab
    rw [if_neg hab]
    simp only [List.eraseReps, List.eraseRepsBy, List.eraseRepsBy.loop, hbeq]
    rw [eraseReps_loop b rest [a]]
    rfl

private theorem mem_eraseReps {x : α} {l : List α} : x ∈ l.eraseReps ↔ x ∈ l := by
  induction l with
  | nil => rfl
  | cons a rest ih =>
    cases rest with
    | nil => rfl
    | cons b rest =>
      rw [eraseReps_cons_cons]
      by_cases hab : a = b
      · simp [ih, hab]
      · rw [if_neg hab, List.mem_cons, List.mem_cons, ih]

private theorem pairwise_lt_eraseReps {l : List α} (h : l.Pairwise (· ≤ ·)) :
    l.eraseReps.Pairwise (· < ·) := by
  induction l with
  | nil => exact .nil
  | cons a rest ih =>
    obtain ⟨hfirst, hrest⟩ := List.pairwise_cons.mp h
    cases rest with
    | nil => exact List.pairwise_singleton _ a
    | cons b rest =>
      rw [eraseReps_cons_cons]
      by_cases hab : a = b
      · rw [if_pos hab]
        exact ih hrest
      · rw [if_neg hab]
        refine List.pairwise_cons.mpr ⟨?_, ih hrest⟩
        intro c hc
        have hlt : a < b := lt_of_le_of_ne (hfirst b List.mem_cons_self) hab
        rcases List.mem_cons.mp (mem_eraseReps.mp hc) with rfl | hc
        · exact hlt
        · exact lt_of_lt_of_le hlt ((List.pairwise_cons.mp hrest).1 c hc)

end Repetitions

namespace Query

/-- A query asks for a term that stands in it outside of all prohibited clauses. -/
inductive Asks : Query → FieldTerm → Prop
  | term {t boost} : Asks (term t boost) t
  | clause {clauses boost c t} (member : c ∈ clauses) (role : c.1 ≠ .prohibited)
      (inner : Asks c.2 t) : Asks (bool clauses boost) t

private theorem mem_clauseTerms {t : FieldTerm} {clauses : List (ClauseRole × Query)} :
    t ∈ clauseTerms clauses ↔ ∃ c ∈ clauses, c.1 ≠ .prohibited ∧ t ∈ c.2.positiveTerms := by
  induction clauses with
  | nil => simp [clauseTerms]
  | cons clause rest ih =>
    obtain ⟨role, q⟩ := clause
    cases role <;> simp [clauseTerms, ih]

private theorem mem_positiveTerms {q : Query} {t : FieldTerm} : t ∈ q.positiveTerms ↔ q.Asks t := by
  induction q using clause_induction with
  | term u boost =>
    rw [positiveTerms, List.mem_singleton]
    constructor
    · intro h
      rw [h]
      exact .term
    · intro h
      cases h
      rfl
  | bool clauses boost ih =>
    rw [positiveTerms, mem_clauseTerms]
    constructor
    · intro ⟨c, hc, hrole, ht⟩
      exact .clause hc hrole ((ih c hc).mp ht)
    · intro h
      cases h with
      | clause hc hrole hinner => exact ⟨_, hc, hrole, (ih _ hc).mpr hinner⟩

@[simp]
theorem mem_termsFor {query : Query} {field text : String} :
    text ∈ query.termsFor field ↔ ⟨field, text⟩ ∈ query.positiveTerms := by
  rw [termsFor, mem_eraseReps, List.mem_mergeSort]
  constructor
  · intro h
    obtain ⟨t, ht, rfl⟩ := List.mem_map.mp h
    obtain ⟨hpositive, hfield⟩ := List.mem_filter.mp ht
    obtain rfl := beq_iff_eq.mp hfield
    exact hpositive
  · intro h
    exact List.mem_map.mpr ⟨_, List.mem_filter.mpr ⟨h, by simp⟩, rfl⟩

private theorem exists_asks_of_matches {doc : TermCounts} {q : Query} (h : q.Matches doc) :
    ∃ t, q.Asks t ∧ doc.frequency t ≠ 0 := by
  induction q using clause_induction with
  | term t boost => exact ⟨t, .term, (matches_term t boost).mp h⟩
  | bool clauses boost ih =>
    obtain ⟨hrequired, -, hcarry⟩ := (matches_bool clauses boost).mp h
    obtain ⟨c, hc, hrole, hmatch⟩ : ∃ c ∈ clauses, c.1 ≠ .prohibited ∧ c.2.Matches doc := by
      rcases hcarry with ⟨c, hc, hrole⟩ | ⟨c, hc, hrole, hmatch⟩
      · exact ⟨c, hc, by simp [hrole], hrequired c hc hrole⟩
      · exact ⟨c, hc, by simp [hrole], hmatch⟩
    obtain ⟨t, hasks, hoccurs⟩ := ih c hc hmatch
    exact ⟨t, .clause hc hrole hasks, hoccurs⟩

/-- A document that a query scores has one of the terms that the query reports, so it has something
to highlight. For each field the texts of these terms are listed strictly ascending; they are those
of the terms that the query asks for. -/
theorem termsFor_of_score (q : Query) :
    (∀ doc stats, (q.score doc stats).isSome = true →
      ∃ t ∈ q.positiveTerms, doc.frequency t ≠ 0 ∧ t.text ∈ q.termsFor t.field) ∧
    ∀ field, (q.termsFor field).Pairwise (· < ·) ∧
      ∀ text, text ∈ q.termsFor field ↔ q.Asks ⟨field, text⟩ := by
  constructor
  · intro doc stats h
    obtain ⟨t, hasks, hoccurs⟩ := exists_asks_of_matches ((isSome_score_iff_matches q).mp h)
    have ht := mem_positiveTerms.mpr hasks
    exact ⟨t, ht, hoccurs, mem_termsFor.mpr ht⟩
  · intro field
    constructor
    · exact pairwise_lt_eraseReps (List.pairwise_mergeSort' (· ≤ ·) _)
    · intro text
      rw [mem_termsFor, mem_positiveTerms]

theorem termsFor_of_score_pen :
    let q := bool [(.prohibited, ink), (.required, bool [(.optional, ink), (.optional, pen)] 1)] 1
    let stats : Statistics := ⟨1, fun _ => 1, fun _ => 1⟩
    (q.score onePen stats).isSome = true ∧
      ∃ t ∈ q.positiveTerms, onePen.frequency t ≠ 0 ∧ t.text ∈ q.termsFor t.field := by
  intro q stats
  have hmatches : q.Matches onePen := by
    simp [q, matches_bool, matches_term, pen, ink, onePen]
  have hscore := (@isSome_score_iff_matches onePen stats q).mpr hmatches
  exact ⟨hscore, (termsFor_of_score q).1 onePen stats hscore⟩

end Query

end PagedSearch
