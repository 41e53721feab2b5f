import Mathlib.Logic.Relation
import PagedSearch.Proofs.Index.Statistics
import PagedSearch.Proofs.Query.Found

/-!
# Matching and scoring

Which documents a query matches depends on the roles of its clauses and not on their order. The
score of a match is a sum over the clauses that take part in it; clauses that do not match leave it
as it is, bit for bit.
-/

namespace PagedSearch.Query

private theorem sizeOf_clause_lt {clauses : List (ClauseRole × Query)} {c : ClauseRole × Query}
    (h : c ∈ clauses) (boost : Binary32) : sizeOf c.2 < sizeOf (bool clauses boost) := by
  have hlt := List.sizeOf_lt_of_mem h
  cases c
  simp only [bool.sizeOf_spec, Prod.mk.sizeOf_spec] at hlt ⊢
  omega

@[elab_as_elim]
theorem clause_induction {motive : Query → Prop} (term : ∀ t boost, motive (.term t boost))
    (bool : ∀ clauses boost, (∀ c ∈ clauses, motive c.2) → motive (.bool clauses boost))
    (q : Query) : motive q := by
  induction hn : sizeOf q using Nat.strongRecOn generalizing q with
  | ind n ih =>
    subst hn
    cases q with
    | term t boost => exact term t boost
    | bool clauses boost =>
      exact bool clauses boost fun c hc => ih _ (sizeOf_clause_lt hc boost) c.2 rfl

variable {doc : TermCounts} {stats : Statistics}

/-- A term matches the documents that have it. A combination matches a document that all of its
required clauses match and none of its prohibited ones, if it has a required clause or if an
optional one matches. -/
def Matches (doc : TermCounts) : Query → Prop
  | term t _ => doc.frequency t ≠ 0
  | bool clauses _ =>
    (∀ c ∈ clauses, c.1 = .required → Matches doc c.2) ∧
      (∀ c ∈ clauses, c.1 = .prohibited → ¬ Matches doc c.2) ∧
      ((∃ c ∈ clauses, c.1 = .required) ∨
        ∃ c, ∃ _ : c ∈ clauses, c.1 = .optional ∧ Matches doc c.2)
termination_by q => sizeOf q
decreasing_by all_goals exact sizeOf_clause_lt ‹c ∈ clauses› _

theorem matches_term (t : FieldTerm) (boost : Binary32) :
    (term t boost).Matches doc ↔ doc.frequency t ≠ 0 := by
  rw [Matches]

theorem matches_bool (clauses : List (ClauseRole × Query)) (boost : Binary32) :
    (bool clauses boost).Matches doc ↔
      (∀ c ∈ clauses, c.1 = .required → c.2.Matches doc) ∧
        (∀ c ∈ clauses, c.1 = .prohibited → ¬ c.2.Matches doc) ∧
        ((∃ c ∈ clauses, c.1 = .required) ∨
          ∃ c ∈ clauses, c.1 = .optional ∧ c.2.Matches doc) := by
  rw [Matches]
  simp only [exists_prop]

/-- A query scores the documents that it matches and no others. -/
theorem isSome_score_iff_matches (q : Query) :
    (q.score doc stats).isSome = true ↔ q.Matches doc := by
  induction q using clause_induction with
  | term t boost => rw [isSome_score_term_iff, matches_term]
  | bool clauses boost ih =>
    have hadmits (c : ClauseRole × Query) (hc : c ∈ clauses) : Admits doc stats c ↔
        (c.1 = .required → c.2.Matches doc) ∧ (c.1 = .prohibited → ¬ c.2.Matches doc) := by
      obtain ⟨role, q⟩ := c
      rw [← ih _ hc]
      cases role <;> simp [Admits]
    have hcarries (c : ClauseRole × Query) (hc : c ∈ clauses) : Carries doc stats c ↔
        c.1 ≠ .prohibited ∧ c.2.Matches doc := by
      rw [Carries, ih c hc]
    rw [isSome_score_bool_iff, matches_bool]
    constructor
    · rintro ⟨hall, c, hc, hcarry⟩
      obtain ⟨hrole, hmatch⟩ := (hcarries c hc).mp hcarry
      refine ⟨fun d hd => ((hadmits d hd).mp (hall d hd)).1,
        fun d hd => ((hadmits d hd).mp (hall d hd)).2, ?_⟩
      cases hkind : c.1 with
      | required => exact .inl ⟨c, hc, hkind⟩
      | optional => exact .inr ⟨c, hc, hkind, hmatch⟩
      | prohibited => exact absurd hkind hrole
    · rintro ⟨hrequired, hprohibited, hcarry⟩
      refine ⟨fun c hc => (hadmits c hc).mpr ⟨hrequired c hc, hprohibited c hc⟩, ?_⟩
      rcases hcarry with ⟨c, hc, hkind⟩ | ⟨c, hc, hkind, hmatch⟩
      · exact ⟨c, hc, (hcarries c hc).mpr ⟨by simp [hkind], hrequired c hc hkind⟩⟩
      · exact ⟨c, hc, (hcarries c hc).mpr ⟨by simp [hkind], hmatch⟩⟩

private theorem score_eq_none_iff (q : Query) : q.score doc stats = none ↔ ¬ q.Matches doc := by
  rw [← @isSome_score_iff_matches doc stats, Bool.not_eq_true, Option.isSome_eq_false_iff,
    Option.isNone_iff_eq_none]

def matchScores (doc : TermCounts) (stats : Statistics) (clauses : List (ClauseRole × Query)) :
    List Binary32 :=
  clauses.filterMap fun c => if c.1 = .prohibited then none else c.2.score doc stats

private theorem total_of_tally {t sum : Tally} {clauses : List (ClauseRole × Query)}
    (h : tally doc stats t clauses = some sum) :
    sum.total = (matchScores doc stats clauses).foldl (· + ·) t.total := by
  induction clauses generalizing t with
  | nil =>
    obtain rfl := Option.some.inj h
    rfl
  | cons clause rest ih =>
    obtain ⟨role, q⟩ := clause
    cases hscore : q.score doc stats with
    | none =>
      cases role with
      | required => simp [tally, hscore] at h
      | optional | prohibited =>
        simp only [tally, hscore] at h
        simpa [matchScores, hscore] using ih h
    | some s =>
      cases role with
      | required | optional =>
        simp only [tally, hscore] at h
        simpa [matchScores, hscore] using ih h
      | prohibited => simp [tally, hscore] at h

private theorem score_bool_of_matches {clauses : List (ClauseRole × Query)} {boost : Binary32}
    (h : (bool clauses boost).Matches doc) :
    (bool clauses boost).score doc stats =
      some ((matchScores doc stats clauses).foldl (· + ·) 0 * boost) := by
  have hsome := (@isSome_score_iff_matches doc stats _).mpr h
  rw [score] at hsome ⊢
  cases htally : tally doc stats ⟨0, false⟩ clauses with
  | none => simp [htally] at hsome
  | some sum =>
    rw [htally] at hsome
    cases hcarried : sum.carried with
    | false => simp [hcarried] at hsome
    | true => simp [hcarried, total_of_tally htally]

private theorem tally_append (t : Tally) (first second : List (ClauseRole × Query)) :
    tally doc stats t (first ++ second) =
      (tally doc stats t first).bind fun sum => tally doc stats sum second := by
  induction first generalizing t with
  | nil => rfl
  | cons clause rest ih =>
    obtain ⟨role, q⟩ := clause
    rcases hscore : q.score doc stats with - | s <;> cases role <;>
      simp [tally, hscore, ih]

/-- One step made at some node of a query, at any depth. -/
inductive Within (Step : Query → Query → Prop) : Query → Query → Prop
  | here {p q} (step : Step p q) : Within Step p q
  | inside {p q role before after boost} (inner : Within Step p q) :
      Within Step (bool (before ++ (role, p) :: after) boost)
        (bool (before ++ (role, q) :: after) boost)

variable {Step : Query → Query → Prop} {p q : Query}

private theorem Within.matches_iff (hstep : ∀ p q, Step p q → (p.Matches doc ↔ q.Matches doc))
    (h : Within Step p q) : p.Matches doc ↔ q.Matches doc := by
  induction h with
  | here step => exact hstep _ _ step
  | inside _ ih =>
    simp only [matches_bool, List.mem_append, List.mem_cons, or_imp, or_and_right, forall_and,
      exists_or, forall_eq, exists_eq_left, ih]

private theorem Within.score_eq (hstep : ∀ p q, Step p q → p.score doc stats = q.score doc stats)
    (h : Within Step p q) : p.score doc stats = q.score doc stats := by
  induction h with
  | here step => exact hstep _ _ step
  | @inside p q role before after boost _ ih =>
    have hclause (t : Tally) :
        tally doc stats t ((role, p) :: after) = tally doc stats t ((role, q) :: after) := by
      cases role <;> simp only [tally, ih]
    simp only [score, tally_append, hclause]

inductive Reorders : Query → Query → Prop
  | clauses {first second boost} (perm : first.Perm second) :
      Reorders (bool first boost) (bool second boost)

private theorem Reorders.matches_iff (h : Reorders p q) : p.Matches doc ↔ q.Matches doc := by
  obtain ⟨perm⟩ := h
  simp only [matches_bool, perm.mem_iff]

inductive AddsIdle (doc : TermCounts) : Query → Query → Prop
  | clause {before after boost c} (role : c.1 ≠ .required) (idle : ¬ c.2.Matches doc) :
      AddsIdle doc (bool (before ++ after) boost) (bool (before ++ c :: after) boost)

private theorem AddsIdle.score_eq (h : AddsIdle doc p q) :
    p.score doc stats = q.score doc stats := by
  obtain @⟨before, after, boost, ⟨role, c⟩, hrole, hidle⟩ := h
  have hnone := (@score_eq_none_iff doc stats c).mpr hidle
  have hskip (t : Tally) : tally doc stats t ((role, c) :: after) = tally doc stats t after := by
    cases role with
    | required => exact absurd rfl hrole
    | optional | prohibited => simp only [tally, hnone]
  simp only [score, tally_append, hskip]

/-- A query scores exactly the documents that it matches, a combination with the boosted sum of the
scores of the clauses that match, from zero and in order. The order of clauses at any level does not
matter for what matches, and clauses that do not match and are not required make no difference to
the score. -/
theorem score_of_matches (doc : TermCounts) (stats : Statistics) :
    (∀ q : Query, (q.score doc stats).isSome = true ↔ q.Matches doc) ∧
    (∀ clauses boost, (bool clauses boost).Matches doc →
      (bool clauses boost).score doc stats =
        some ((matchScores doc stats clauses).foldl (· + ·) 0 * boost)) ∧
    (∀ p q, Relation.ReflTransGen (Within Reorders) p q → (p.Matches doc ↔ q.Matches doc)) ∧
    ∀ p q, Within (AddsIdle doc) p q → p.score doc stats = q.score doc stats := by
  refine ⟨isSome_score_iff_matches, fun _ _ => score_bool_of_matches, ?_, ?_⟩
  · intro p q h
    induction h with
    | refl => rfl
    | tail _ step ih => exact ih.trans (step.matches_iff fun _ _ => Reorders.matches_iff)
  · intro p q h
    exact h.score_eq fun _ _ => AddsIdle.score_eq

def onePen : TermCounts := ⟨fun t => if t = ⟨"name", "pen"⟩ then 1 else 0, fun _ => 1⟩

def pen : Query := term ⟨"name", "pen"⟩ 1

def ink : Query := term ⟨"name", "ink"⟩ 1

theorem score_of_matches_pen :
    let stats : Statistics := ⟨1, fun _ => 1, fun _ => 1⟩
    let found := bool [(.optional, ink), (.required, pen)] 2
    let spared :=
      bool [(.prohibited, bool [(.required, ink), (.optional, pen)] 1), (.optional, pen)] 1
    let turned :=
      bool [(.prohibited, bool [(.optional, pen), (.required, ink)] 1), (.optional, pen)] 1
    found.Matches onePen ∧
      found.score onePen stats = some ((matchScores onePen stats
        [(.optional, ink), (.required, pen)]).foldl (· + ·) 0 * 2) ∧
      Within Reorders spared turned ∧ (spared.Matches onePen ↔ turned.Matches onePen) ∧
      Within (AddsIdle onePen) (bool [(.required, pen)] 2) found ∧
      (bool [(.required, pen)] 2).score onePen stats = found.score onePen stats := by
  intro stats found spared turned
  obtain ⟨-, hscore, horder, hidle⟩ := score_of_matches onePen stats
  have hfound : found.Matches onePen := by
    simp [found, matches_bool, matches_term, pen, onePen]
  have hturned : Within Reorders spared turned :=
    @Within.inside _ _ _ .prohibited [] [(.optional, pen)] 1 (.here ⟨.swap _ _ []⟩)
  have hadded : Within (AddsIdle onePen) (bool [(.required, pen)] 2) found := by
    have hink : ¬ ink.Matches onePen := by simp [ink, matches_term, onePen]
    exact .here (@AddsIdle.clause _ [] [(.required, pen)] 2 (.optional, ink) (by decide) hink)
  exact ⟨hfound, hscore _ _ hfound, hturned, horder _ _ (.single hturned), hadded,
    hidle _ _ hadded⟩

end PagedSearch.Query
