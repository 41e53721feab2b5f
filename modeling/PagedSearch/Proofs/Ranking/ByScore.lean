import PagedSearch.Proofs.Order.Rendering
import PagedSearch.Proofs.Ranking.Rank

/-!
# Rankings by score

A criterion for scores may be written in several ways. Best first, it ranks as the empty
specification does, although hits are then collected in another way. Turned around it ranks by
ascending score, with ties still by ascending id.
-/

namespace PagedSearch

def scoreCriterion (field : String) (reverse : Bool) : Criterion := ⟨field, .score, reverse⟩

namespace SortSpec

variable {registry : Registry} {field : String}

def scoreWords : List (List (List Char) × Bool) :=
  [([], false), (["SCORE".toList], false), (["SCORE".toList, "DESC".toList], false),
    (["AUTO".toList, "true".toList], false), (["SCORE".toList, "ASC".toList], true)]

def scoreText (field : String) (words : List (List Char)) : List Char :=
  [','].intercalate (field.toList :: words)

private theorem isCore_scoreWords :
    ∀ entry ∈ scoreWords, ∀ word ∈ entry.1, IsCore [',', ';'] word := by
  unfold IsCore
  decide

variable (hfield : IsCore [',', ';'] field.toList) {words : List (List Char)} {reverse : Bool}
  (hwords : (words, reverse) ∈ scoreWords)

include hfield hwords

private theorem isCore_parts : ∀ part ∈ field.toList :: words, IsCore [',', ';'] part :=
  List.forall_mem_cons.mpr ⟨hfield, isCore_scoreWords (words, reverse) hwords⟩

private theorem derives_scoreText :
    Derives registry false (scoreText field words) (scoreCriterion field reverse) := by
  have hparts : Lists ',' (field.toList :: words) (Unicode.trim (scoreText field words)) :=
    (spells_intercalate _).lists_trim (by decide) (by simp) (isCore_parts hfield hwords)
  have hscore : IsKind registry false "SCORE".toList .score := .score (.inr rfl)
  have hauto : IsKind registry false "AUTO".toList .score := .score (.inl rfl)
  have hascending : IsFlag "ASC".toList false := by decide
  have hdescending : IsFlag "DESC".toList true := by decide
  have htrue : IsFlag "true".toList true := by decide
  have hname : scoreCriterion field reverse = ⟨.ofList field.toList, .score, reverse⟩ := by
    rw [String.ofList_toList, scoreCriterion]
  rw [hname]
  simp only [scoreWords, List.mem_cons, Prod.mk.injEq, List.not_mem_nil, or_false] at hwords
  rcases hwords with ⟨rfl, rfl⟩ | ⟨rfl, rfl⟩ | ⟨rfl, rfl⟩ | ⟨rfl, rfl⟩ | ⟨rfl, rfl⟩
  · exact .field hparts hfield.1
  · exact .kind hparts hfield.1 hscore
  -- the flag of a criterion by score is turned around
  · exact .flag hparts hfield.1 hscore hdescending nofun
  · exact .flag hparts hfield.1 hauto htrue nofun
  · exact .flag hparts hfield.1 hscore hascending nofun

private theorem ofText_scoreText {text : String} (htext : text.toList = scoreText field words) :
    ofText registry text = .ok [scoreCriterion field reverse] := by
  have hparts := isCore_parts hfield hwords
  have hsemicolon : ';' ∉ scoreText field words := by
    intro hmem
    rcases (joins_intercalate _).mem hmem with heq | ⟨part, hpart, hmem⟩
    · exact absurd heq (by decide)
    · exact (hparts part hpart).2.2 ';' hmem (by simp)
  have hne : scoreText field words ≠ [] := by
    obtain ⟨c, rest, hcons⟩ := List.exists_cons_of_ne_nil hfield.1
    cases words <;> simp [scoreText, hcons]
  rw [ofText_eq_ok_iff, htext, pieces_of_not_mem hsemicolon hne]
  exact .cons (derives_scoreText hfield hwords) .nil

end SortSpec

namespace Session

theorem rank_of_chainOrder {spec : SortSpec} {index : Index}
    (h : SortSpec.chainOrder index spec.chain = byRelevance) (location : String) (query : Query)
    (count : Nat) :
    rank ⟨location, index, false⟩ query spec count =
      .ok ⟨keepBest byRelevance count [] (index.hits query), (index.hits query).length⟩ := by
  rcases rank_cases location index query spec count with ⟨-, hok⟩ | ⟨hnot, -⟩
  · rw [hok, h]
  · refine absurd (placeable_of_pairwise ?_ count) hnot
    rw [h]
    exact List.pairwise_of_forall fun a b => byRelevance_comparable a b

private theorem rank_scoreCriterion (field : String) (session : Session) (query : Query)
    (count : Nat) :
    session.rank query [scoreCriterion field false] count = session.rank query [] count := by
  obtain ⟨location, index, isClosed⟩ := session
  cases isClosed with
  | true => rfl
  | false =>
    have hscore : SortSpec.chainOrder index (SortSpec.chain [scoreCriterion field false]) =
        SortSpec.chainOrder index [SortSpec.relevance] := rfl
    have hempty := chainOrder_relevance_eq index
    rw [rank_of_chainOrder (hscore.trans hempty)]
    exact (rank_of_chainOrder hempty location query count).symm

def LessRelevant (a b : Hit) : Prop :=
  a.score.orderKey < b.score.orderKey ∨ a.score = b.score ∧ a.id < b.id

private theorem ranksBefore_reversed_iff {index : Index} {field : String} {a b : Hit} :
    SortSpec.RanksBefore index [scoreCriterion field true] a b ↔ LessRelevant a b := by
  have hbefore : (scoreCriterion field true).Before index a b ↔
      a.score.orderKey < b.score.orderKey := by
    have hreverse : (scoreCriterion field true).reverse = true := rfl
    have hnatural : (scoreCriterion field true).natural index b a =
        .ok (compare a.score.orderKey b.score.orderKey) := rfl
    rw [Criterion.Before, if_pos hreverse, hnatural, Except.ok.injEq, Int.compare_eq_lt]
  have hties : (scoreCriterion field true).Ties index a b ↔ a.score = b.score := by
    have hnatural : (scoreCriterion field true).natural index a b =
        .ok (b.score.compareTotal a.score) := rfl
    rw [Criterion.Ties, hnatural, Except.ok.injEq]
    constructor
    · intro h
      exact (Binary.eq_of_compareTotal_eq h).symm
    · intro h
      simp [h, Binary.compareTotal]
  rw [SortSpec.RanksBefore, SortSpec.ChainBefore, hbefore, hties, LessRelevant]
  rfl

private theorem comparable_scoreCriterion (index : Index) (field : String) (reverse : Bool)
    (a b : Hit) :
    Comparable (SortSpec.chainOrder index (SortSpec.chain [scoreCriterion field reverse])) a b := by
  rw [SortSpec.comparable_chain, SortSpec.comparable_iff]
  simp [SortSpec.Incomparable, Criterion.Rejects, scoreCriterion]

/-- A specification by score alone, however it is written, returns what the empty one returns. With
the flag that turns it around it returns the first matches by ascending score, and by ascending id
among equals. -/
theorem rank_by_score (registry : Registry) {field : String}
    (hfield : IsCore [',', ';'] field.toList) :
    (∀ text ∈ [field, field ++ ",SCORE", field ++ ",SCORE,DESC", field ++ ",AUTO,true"],
      ∃ spec, SortSpec.ofText registry text = .ok spec ∧
        ∀ (session : Session) (query : Query) (count : Nat),
          session.rank query spec count = session.rank query [] count) ∧
    ∃ spec, SortSpec.ofText registry (field ++ ",SCORE,ASC") = .ok spec ∧
      ∀ (location : String) (index : Index) (query : Query), ∃ ranking : List Hit,
        (∀ hit, hit ∈ ranking ↔ index.Matches query hit) ∧ ranking.Pairwise LessRelevant ∧
        ∀ count, rank ⟨location, index, false⟩ query spec count =
          .ok ⟨ranking.take count, ranking.length⟩ := by
  have hread (words : List (List Char)) (reverse : Bool) (text : String)
      (hwords : (words, reverse) ∈ SortSpec.scoreWords)
      (htext : text.toList = SortSpec.scoreText field words) :
      SortSpec.ofText registry text = .ok [scoreCriterion field reverse] :=
    SortSpec.ofText_scoreText hfield hwords htext
  constructor
  · intro text htext
    refine ⟨[scoreCriterion field false], ?_, rank_scoreCriterion field⟩
    simp only [List.mem_cons, List.not_mem_nil, or_false] at htext
    rcases htext with rfl | rfl | rfl | rfl
    · exact hread [] false _ (by simp [SortSpec.scoreWords]) (by simp [SortSpec.scoreText])
    · exact hread ["SCORE".toList] false _ (by simp [SortSpec.scoreWords])
        (by simp [SortSpec.scoreText])
    · exact hread ["SCORE".toList, "DESC".toList] false _ (by simp [SortSpec.scoreWords])
        (by simp [SortSpec.scoreText])
    · exact hread ["AUTO".toList, "true".toList] false _ (by simp [SortSpec.scoreWords])
        (by simp [SortSpec.scoreText])
  · refine ⟨[scoreCriterion field true], ?_, ?_⟩
    · exact hread ["SCORE".toList, "ASC".toList] true _ (by simp [SortSpec.scoreWords])
        (by simp [SortSpec.scoreText])
    · intro location index query
      obtain ⟨ranking, hranking, hrank⟩ := exists_ranking location
        (List.pairwise_of_forall (comparable_scoreCriterion index field true))
      refine ⟨ranking, hranking.complete, ?_, hrank⟩
      exact hranking.ordered.imp ranksBefore_reversed_iff.mp

theorem rank_by_score_pens :
    IsCore [',', ';'] "price".toList ∧
    (∃ spec, SortSpec.ofText .builtin "price,AUTO,true" = .ok spec ∧ ∀ count,
      rank ⟨"pens", pens, false⟩ penQuery spec count =
        rank ⟨"pens", pens, false⟩ penQuery [] count) ∧
    ∃ spec, SortSpec.ofText .builtin "price,SCORE,ASC" = .ok spec ∧ ∃ ranking : List Hit,
      ranking.Pairwise LessRelevant ∧ ∀ count,
        rank ⟨"pens", pens, false⟩ penQuery spec count =
          .ok ⟨ranking.take count, ranking.length⟩ := by
  have hfield : IsCore [',', ';'] "price".toList := by
    unfold IsCore
    decide
  obtain ⟨hbest, spec, hspec, hrank⟩ := rank_by_score .builtin hfield
  obtain ⟨ranking, -, hascending, hfront⟩ := hrank "pens" pens penQuery
  obtain ⟨same, hsame, hagrees⟩ := hbest "price,AUTO,true" (by decide)
  exact ⟨hfield, ⟨same, hsame, fun count => hagrees ⟨"pens", pens, false⟩ penQuery count⟩,
    spec, hspec, ranking, hascending, hfront⟩

end Session

end PagedSearch
