import Mathlib.Tactic.NormNum
import PagedSearch.Proofs.Number.Magnitude
import PagedSearch.Proofs.Query.Group

/-! # Boosts -/

namespace PagedSearch.Query

mutual

/-- The terms of a query in order, each with the product of its boost, the boosts of the nodes
around it, and a factor from outside. -/
def occurrencesWithin (outer : ℚ) : Query → List (FieldTerm × ℚ)
  | term t b => [(t, outer * b.value)]
  | bool clauses b => clauseOccurrences (outer * b.value) clauses

def clauseOccurrences (outer : ℚ) : List (ClauseRole × Query) → List (FieldTerm × ℚ)
  | [] => []
  | (_, q) :: rest => occurrencesWithin outer q ++ clauseOccurrences outer rest

end

/-- The terms of a query in order, each with its effective boost. -/
def occurrences (q : Query) : List (FieldTerm × ℚ) := occurrencesWithin 1 q

mutual

def boosts : Query → List Binary32
  | term _ b => [b]
  | bool clauses b => b :: clauseBoosts clauses

def clauseBoosts : List (ClauseRole × Query) → List Binary32
  | [] => []
  | (_, q) :: rest => boosts q ++ clauseBoosts rest

end

def scale (c : ℚ) (o : FieldTerm × ℚ) : FieldTerm × ℚ := (o.1, c * o.2)

mutual

theorem occurrencesWithin_mul (c outer : ℚ) : ∀ q : Query,
    occurrencesWithin (c * outer) q = (occurrencesWithin outer q).map (scale c)
  | term t b => by simp [occurrencesWithin, scale, mul_assoc]
  | bool clauses b => by
    rw [occurrencesWithin, occurrencesWithin, mul_assoc]
    exact clauseOccurrences_mul c (outer * b.value) clauses

private theorem clauseOccurrences_mul (c outer : ℚ) : ∀ clauses : List (ClauseRole × Query),
    clauseOccurrences (c * outer) clauses = (clauseOccurrences outer clauses).map (scale c)
  | [] => rfl
  | (_, q) :: rest => by
    rw [clauseOccurrences, clauseOccurrences, List.map_append, occurrencesWithin_mul c outer q,
      clauseOccurrences_mul c outer rest]

end

mutual

private theorem occurrencesWithin_ne_zero {outer : ℚ} (houter : outer ≠ 0) : ∀ q : Query,
    (∀ b ∈ q.boosts, b.value ≠ 0) → ∀ o ∈ occurrencesWithin outer q, o.2 ≠ 0
  | term t b, hboosts, o, ho => by
    obtain rfl := List.mem_singleton.mp ho
    exact mul_ne_zero houter (hboosts b (by simp [boosts]))
  | bool clauses b, hboosts, o, ho => by
    have hb : b.value ≠ 0 := hboosts b (by simp [boosts])
    refine clauseOccurrences_ne_zero (mul_ne_zero houter hb) clauses ?_ o ho
    exact fun c hc => hboosts c (by simp [boosts, hc])

theorem clauseOccurrences_ne_zero {outer : ℚ} (houter : outer ≠ 0) :
    ∀ clauses : List (ClauseRole × Query), (∀ b ∈ clauseBoosts clauses, b.value ≠ 0) →
      ∀ o ∈ clauseOccurrences outer clauses, o.2 ≠ 0
  | [], _, o, ho => by simp [clauseOccurrences] at ho
  | (_, q) :: rest, hboosts, o, ho => by
    rcases List.mem_append.mp ho with hfirst | hrest
    · exact occurrencesWithin_ne_zero houter q (fun c hc => hboosts c (by simp [clauseBoosts, hc]))
        o hfirst
    · exact clauseOccurrences_ne_zero houter rest
        (fun c hc => hboosts c (by simp [clauseBoosts, hc])) o hrest

end

theorem occurrences_withBoost {q : Query} (hq : q.boost.value ≠ 0) (b : Binary32) :
    (q.withBoost b).occurrences = q.occurrences.map (scale (b.value / q.boost.value)) := by
  have hcancel : b.value / q.boost.value * (1 * q.boost.value) = 1 * b.value := by
    rw [one_mul, one_mul, div_mul_cancel₀ _ hq]
  cases q with
  | term t own => simp [occurrences, occurrencesWithin, withBoost, scale, boost, ← hcancel]
  | bool clauses own =>
    have hmul := clauseOccurrences_mul (b.value / own.value) (1 * own.value) clauses
    rwa [show b.value / own.value * (1 * own.value) = 1 * b.value from hcancel] at hmul

private theorem occurrences_withBoost_eq_iff {q : Query} {b : Binary32} (hb : b.value ≠ 0)
    (hboosts : ∀ c ∈ q.boosts, c.value ≠ 0) :
    (q.withBoost b).occurrences = q.occurrences.map (scale b.value) ↔
      q.boost.value = 1 ∨ q.occurrences = [] := by
  have hown : q.boost.value ≠ 0 := hboosts q.boost (by cases q <;> simp [boosts, boost])
  rw [occurrences_withBoost hown]
  constructor
  · intro h
    rcases hocc : q.occurrences with - | ⟨o, rest⟩
    · exact .inr rfl
    · have ho : o.2 ≠ 0 := occurrencesWithin_ne_zero one_ne_zero q hboosts o (by
        rw [← occurrences, hocc]
        exact List.mem_cons_self)
      simp only [hocc, List.map_cons, List.cons.injEq, scale, Prod.mk.injEq, true_and] at h
      have hfactor : b.value / q.boost.value = b.value := mul_right_cancel₀ ho h.1
      have hmul : b.value * q.boost.value = b.value * 1 := by
        rw [mul_one, ← (div_eq_iff hown).mp hfactor]
      exact .inl (mul_left_cancel₀ hb hmul)
  · rintro (hone | hnone)
    · rw [hone, div_one]
    · rw [hnone]
      rfl

variable {scope : QueryScope} {text number : String} {query : Query} {b : Binary32}

private theorem applyBoost_number (query : Query) {number : List Char}
    (hnumber : ∀ c ∈ number, isBoostChar c = true) (hb : readBinary? .single number = some b) :
    applyBoost query ('^' :: number) = .ok (query.withBoost b, []) := by
  have hwhole : number.takeWhile isBoostChar = number := List.takeWhile_eq_self_iff.mpr hnumber
  have hrest : number.dropWhile isBoostChar = [] := List.dropWhile_eq_nil_iff.mpr hnumber
  simp only [applyBoost, hwhole, hb, hrest]

private theorem parse_boosted_group (hquery : parse scope text = .ok query)
    (hnumber : ∀ c ∈ number.toList, isBoostChar c = true)
    (hb : readBinary? .single number.toList = some b) :
    parse scope ("(" ++ text ++ ")^" ++ number) = .ok (query.withBoost b) := by
  have hchars : ("(" ++ text ++ ")^" ++ number).toList =
      '(' :: (text.toList ++ ')' :: '^' :: number.toList) := by simp
  have hclause : Reads scope (.clause (.optional, query.withBoost b))
      ('(' :: (text.toList ++ ')' :: '^' :: number.toList)) [] :=
    .clause_of_splitPrefix rfl (reads_group_of_parse hquery _)
      (applyBoost_number query hnumber hb)
  rw [parse_eq_ok_iff, hchars]
  exact .next rfl (by decide) rfl hclause (.finish rfl rfl)

/-- A boost behind a group leaves the terms of its query as they are and changes their effective
boosts in proportion to the boost that it takes the place of. It multiplies them exactly where the
query has no boost of its own, or no terms. -/
theorem occurrences_boosted_group (hquery : parse scope text = .ok query)
    (hnumber : ∀ c ∈ number.toList, isBoostChar c = true)
    (hb : readBinary? .single number.toList = some b)
    (hpower : b.IsPowerOfTwo) (hpowers : ∀ c ∈ query.boosts, c.IsPowerOfTwo) :
    ∃ boosted, parse scope ("(" ++ text ++ ")^" ++ number) = .ok boosted ∧
      boosted.occurrences = query.occurrences.map (scale (b.value / query.boost.value)) ∧
      (boosted.occurrences = query.occurrences.map (scale b.value) ↔
        query.boost.value = 1 ∨ query.occurrences = []) := by
  have hne (c : Binary32) (hc : c ∈ query.boosts) : c.value ≠ 0 := (hpowers c hc).value_ne_zero
  have hown : query.boost.value ≠ 0 := hne query.boost (by cases query <;> simp [boosts, boost])
  exact ⟨query.withBoost b, parse_boosted_group hquery hnumber hb, occurrences_withBoost hown b,
    occurrences_withBoost_eq_iff hpower.value_ne_zero hne⟩

private theorem value_two : (2 : Binary32).value = 2 := by
  have hextent : (2 : Binary32).extent = .finite 8388608 (-22) := rfl
  have hsign : (2 : Binary32).negative = false := by decide
  norm_num [Binary.value, hextent, hsign]

private theorem value_four : (4 : Binary32).value = 4 := by
  have hextent : (4 : Binary32).extent = .finite 8388608 (-21) := rfl
  have hsign : (4 : Binary32).negative = false := by decide
  norm_num [Binary.value, hextent, hsign]

private theorem isPowerOfTwo_two : (2 : Binary32).IsPowerOfTwo := ⟨1, by norm_num [value_two]⟩

private theorem isPowerOfTwo_four : (4 : Binary32).IsPowerOfTwo := ⟨2, by norm_num [value_four]⟩

private theorem readBinary?_four : readBinary? .single "4".toList = some 4 := by decide +kernel

private theorem parse_boosted_word :
    parse ⟨.standard, ["f"]⟩ "a^2" = .ok (.term ⟨"f", "a"⟩ 2) := by
  have hchars : "a^2".toList = ['a', '^', '2'] := by decide
  have hterms : Analyzer.standard.terms "a" = ["a"] := by decide +kernel
  have hword : ofText .standard ["f"] (.ofList ['a']) = .ok (.term ⟨"f", "a"⟩ 1) := by
    simp [ofText, hterms, queryOfTerms?]
  have hboost : applyBoost (.term ⟨"f", "a"⟩ 1) ['^', '2'] = .ok (.term ⟨"f", "a"⟩ 2, []) :=
    applyBoost_number _ (List.all_eq_true.mp (by decide)) (by decide +kernel)
  have hclause : Reads ⟨.standard, ["f"]⟩ (.clause (.optional, .term ⟨"f", "a"⟩ 2))
      ['a', '^', '2'] [] :=
    .clause_of_splitPrefix rfl (.word (by decide) rfl hword) hboost
  rw [parse_eq_ok_iff, hchars]
  exact .next rfl (by decide) rfl hclause (.finish rfl rfl)

theorem occurrences_boosted_group_four :
    ∃ boosted, parse ⟨.standard, ["f"]⟩ "(a^2)^4" = .ok boosted ∧
      boosted.occurrences = [(⟨"f", "a"⟩, 4)] := by
  obtain ⟨boosted, hparse, hocc, -⟩ := occurrences_boosted_group parse_boosted_word
    (List.all_eq_true.mp (by decide)) readBinary?_four isPowerOfTwo_four
    (by simpa [boosts] using isPowerOfTwo_two)
  refine ⟨boosted, hparse, hocc.trans ?_⟩
  norm_num [occurrences, occurrencesWithin, boost, scale, value_two, value_four]

/-- The boosts of a word and of the parentheses around it do not multiply. -/
theorem boosts_not_multiplied :
    ∃ query boosted, parse ⟨.standard, ["f"]⟩ "a^2" = .ok query ∧
      parse ⟨.standard, ["f"]⟩ "(a^2)^4" = .ok boosted ∧
      (4 : Binary32).IsPowerOfTwo ∧ (∀ b ∈ query.boosts, b.IsPowerOfTwo) ∧
      boosted.occurrences ≠ query.occurrences.map (scale (4 : Binary32).value) := by
  refine ⟨_, _, parse_boosted_word,
    parse_boosted_group parse_boosted_word (List.all_eq_true.mp (by decide)) readBinary?_four,
    isPowerOfTwo_four, by simpa [boosts] using isPowerOfTwo_two, ?_⟩
  norm_num [occurrences, occurrencesWithin, withBoost, scale, value_two, value_four]

end PagedSearch.Query
