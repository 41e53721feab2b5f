import PagedSearch.Proofs.Excerpt.Tiling
import PagedSearch.Proofs.Query.Terms
import PagedSearch.Proofs.Text.Runs

/-!
# The best fragments

A highlight shows the fragments of a text that hold a term of the query, those with more distinct
terms first and of two with as many the earlier one first. Only so many are shown as are asked for,
and none that is left out would stand before one that is shown. The numbers of terms are compared
as scores in single precision, which tells apart all that do not exceed a power of two.
-/

namespace PagedSearch

open BinaryFormat (isProper_single)

namespace Fragment

def tokensWithin (f : Fragment) (tokens : List Token) : List Token :=
  tokens.filter fun t => f.start ≤ t.start ∧ t.stop ≤ f.stop

private theorem tokensWithin_append (f : Fragment) (front back : List Token) :
    f.tokensWithin (front ++ back) = f.tokensWithin front ++ f.tokensWithin back :=
  List.filter_append front back

private theorem tokensWithin_eq_self {f : Fragment} {tokens : List Token}
    (h : ∀ t ∈ tokens, f.start ≤ t.start ∧ t.stop ≤ f.stop) : f.tokensWithin tokens = tokens :=
  List.filter_eq_self.mpr fun t ht => decide_eq_true (h t ht)

private theorem tokensWithin_eq_nil {f : Fragment} {tokens : List Token}
    (h : ∀ t ∈ tokens, ¬ (f.start ≤ t.start ∧ t.stop ≤ f.stop)) : f.tokensWithin tokens = [] :=
  List.filter_eq_nil_iff.mpr fun t ht => by simpa using h t ht

/-- The terms of a query for a field that stand in the range of a fragment. -/
def termsWithin (f : Fragment) (tokens : List Token) (query : Query) (field : String) :
    Finset String :=
  (((f.tokensWithin tokens).map Token.text).filter
    fun text => ⟨field, text⟩ ∈ query.positiveTerms).toFinset

/-- A fragment has the greater score, or the same score as another and stands before it. -/
def ScoredBefore (f g : Fragment) : Prop :=
  g.score.PrecedesTotally f.score ∨ g.score = f.score ∧ f.start < g.start

/-- A fragment has more of the terms than another, or as many and stands before it. -/
def Outranks (tokens : List Token) (query : Query) (field : String) (f g : Fragment) : Prop :=
  (g.termsWithin tokens query field).card < (f.termsWithin tokens query field).card ∨
    (g.termsWithin tokens query field).card = (f.termsWithin tokens query field).card ∧
      f.start < g.start

end Fragment

section Analysis

private theorem keptTokens_sublist (text : List Char) (offset : Nat) (tokens : List Token) :
    (keptTokens text offset tokens).Sublist tokens := by
  induction tokens generalizing offset with
  | nil => exact List.Sublist.refl []
  | cons t rest ih =>
    rw [keptTokens]
    split
    · exact (ih t.stop).cons_cons t
    · exact (ih offset).cons t

theorem Analyzer.keptTokens_analyze (analyzer : Analyzer) (text : String) :
    keptTokens text.toList 0 (analyzer.analyze text) = analyzer.analyze text := by
  have hstand : StandAt [] (analyzer.place text).1
      (keptTokens text.toList 0 (analyzer.analyze text)) :=
    standAt_placeTokens [] text.toList (analyzer.analyze text)
  have hplaced := congrArg List.length (analyzer.place_words text).1
  rw [List.length_map, List.length_map] at hplaced
  exact (keptTokens_sublist _ _ _).eq_of_length (hstand.length_eq.symm.trans hplaced)

private theorem Analyzer.start_lt_stop {analyzer : Analyzer} {text : String} {t : Token}
    (h : t ∈ analyzer.analyze text) : t.start < t.stop := by
  obtain ⟨w, hw, hstart, hstop⟩ := exists_mem_of_forall₂ (analyzer.analyze_wordSpans text) h
  rw [hstart, hstop]
  exact (mem_wordSpans_iff.mp hw).start_lt_stop

end Analysis

section Range

variable {start stop : Nat}

private theorem Tiles.le_start {cut : List Fragment} (h : Tiles start cut stop) :
    ∀ f ∈ cut, start ≤ f.start := by
  induction cut generalizing start with
  | nil => exact nofun
  | cons f rest ih =>
    obtain ⟨hstart, hle, hrest⟩ := h
    refine List.forall_mem_cons.mpr ⟨hstart.ge, fun g hg => ?_⟩
    have := ih hrest g hg
    omega

private theorem Tiles.pairwise_start {cut : List Fragment} (h : Tiles start cut stop)
    (hfilled : ∀ f ∈ cut, f.start < f.stop) : cut.Pairwise fun f g => f.start < g.start := by
  induction cut generalizing start with
  | nil => exact .nil
  | cons f rest ih =>
    obtain ⟨-, -, hrest⟩ := h
    obtain ⟨hf, hothers⟩ := List.forall_mem_cons.mp hfilled
    refine List.pairwise_cons.mpr ⟨fun g hg => ?_, ih hrest hothers⟩
    have := hrest.le_start g hg
    omega

private theorem Tiles.tokensWithin_eq {pairs : List (Fragment × List Token)}
    (h : Tiles start (pairs.map Prod.fst) stop)
    (hheld : ∀ pair ∈ pairs, ∀ t ∈ pair.2,
      pair.1.start ≤ t.start ∧ t.start < t.stop ∧ t.stop ≤ pair.1.stop) :
    ∀ pair ∈ pairs, pair.1.tokensWithin (pairs.map Prod.snd).flatten = pair.2 := by
  induction pairs generalizing start with
  | nil => exact nofun
  | cons first rest ih =>
    obtain ⟨-, -, hbehind⟩ := h
    obtain ⟨hfirst, hothers⟩ := List.forall_mem_cons.mp hheld
    have hlater : ∀ pair ∈ rest, first.1.stop ≤ pair.1.start := fun pair hpair =>
      hbehind.le_start _ (List.mem_map_of_mem hpair)
    have hrest := ih hbehind hothers
    intro pair hpair
    rw [List.map_cons, List.flatten_cons, Fragment.tokensWithin_append]
    rcases List.mem_cons.mp hpair with rfl | hpair
    · have hall : pair.1.tokensWithin pair.2 = pair.2 := by
        refine Fragment.tokensWithin_eq_self fun t ht => ?_
        have := hfirst t ht
        omega
      have hnone : pair.1.tokensWithin (rest.map Prod.snd).flatten = [] := by
        refine Fragment.tokensWithin_eq_nil fun t ht => ?_
        obtain ⟨held, hheld, ht⟩ := List.mem_flatten.mp ht
        obtain ⟨other, hother, rfl⟩ := List.mem_map.mp hheld
        have := hothers other hother t ht
        have := hlater other hother
        omega
      rw [hall, hnone, List.append_nil]
    · have hnone : pair.1.tokensWithin first.2 = [] := by
        refine Fragment.tokensWithin_eq_nil fun t ht => ?_
        have := hfirst t ht
        have := hlater pair hpair
        omega
      rw [hnone, hrest pair hpair, List.nil_append]

end Range

section Shown

variable {tags : TagPair} {terms : List String} {text : List Char}

private theorem infix_of_tagWithin? {held : List Token} {position stop : Nat} {shown : List Char}
    (h : tagWithin? tags terms text position stop held = some shown) {t : Token} (ht : t ∈ held)
    (hterm : t.text ∈ terms) :
    ∃ surface, slice? text t.start t.stop = some surface ∧ tags.around surface <:+: shown := by
  induction held generalizing position shown with
  | nil => cases ht
  | cons u rest ih =>
    rw [tagWithin?] at h
    by_cases hu : terms.contains u.text = true
    · rw [if_pos hu] at h
      obtain ⟨gap, -, h⟩ := Option.bind_eq_some_iff.mp h
      obtain ⟨surface, hsurface, h⟩ := Option.bind_eq_some_iff.mp h
      obtain ⟨behind, hbehind, h⟩ := Option.bind_eq_some_iff.mp h
      obtain rfl := Option.some.inj h
      rcases List.mem_cons.mp ht with rfl | ht
      · exact ⟨surface, hsurface, List.infix_append' gap (tags.around surface) behind⟩
      · obtain ⟨inner, hinner, hwithin⟩ := ih hbehind ht
        exact ⟨inner, hinner, (hwithin.trans List.infix_append_right).trans
          List.infix_append_right⟩
    · rw [if_neg hu] at h
      rcases List.mem_cons.mp ht with rfl | ht
      · exact absurd (by simpa using hterm) hu
      · exact ih h ht

end Shown

section Order

variable {f g : Fragment} {cut : List Fragment}

private theorem isLE_compareRank_iff :
    (f.compareRank g).isLE = true ↔
      g.score.orderKey < f.score.orderKey ∨
        g.score.orderKey = f.score.orderKey ∧ f.start ≤ g.start := by
  rw [Fragment.compareRank, Binary.compareTotal, Ordering.isLE_then_iff_or, Int.compare_eq_lt,
    Int.compare_eq_eq, Nat.isLE_compare]

private theorem pairwise_scoredBefore (h : cut.Pairwise fun f g => f.start < g.start) :
    (cut.mergeSort fun f g => (f.compareRank g).isLE).Pairwise Fragment.ScoredBefore := by
  have hsorted : (cut.mergeSort fun f g => (f.compareRank g).isLE).Pairwise
      fun f g => (f.compareRank g).isLE = true := by
    apply List.pairwise_mergeSort
    · intro f g k hfg hgk
      rw [isLE_compareRank_iff] at hfg hgk ⊢
      omega
    · intro f g
      rw [Bool.or_eq_true, isLE_compareRank_iff, isLE_compareRank_iff]
      omega
  have happart : (cut.mergeSort fun f g => (f.compareRank g).isLE).Pairwise
      fun f g => f.start ≠ g.start := by
    rw [(List.mergeSort_perm _ _).pairwise_iff Ne.symm]
    exact h.imp Nat.ne_of_lt
  refine hsorted.imp₂ ?_ happart
  intro f g hle hne
  rcases isLE_compareRank_iff.mp hle with hscore | ⟨hscore, hstart⟩
  · exact .inl (Binary.orderKey_lt_iff.mp hscore)
  · exact .inr ⟨Binary.orderKey_injective hscore, by omega⟩

variable {tokens : List Token} {query : Query} {field : String}

/-- The counts from which the scores are rounded keep their order, and those that are not rounded
are told apart. -/
private theorem Fragment.ScoredBefore.outranks (h : f.ScoredBefore g)
    (hf : f.score = .ofNat (f.termsWithin tokens query field).card)
    (hg : g.score = .ofNat (g.termsWithin tokens query field).card)
    (hfewf : (f.termsWithin tokens query field).card ≤ 2 ^ 24)
    (hfewg : (g.termsWithin tokens query field).card ≤ 2 ^ 24) :
    f.Outranks tokens query field g := by
  rcases h with hscore | ⟨hscore, hstart⟩
  · left
    rw [← Binary.orderKey_lt_iff, hf, hg] at hscore
    by_contra hmany
    have := Binary.orderKey_ofNat_mono isProper_single (not_lt.mp hmany)
    omega
  · right
    rw [hf, hg] at hscore
    exact ⟨Binary.ofNat_inj isProper_single (by decide) hfewf hfewg hscore, hstart⟩

end Order

section Analyzed

variable (tags : TagPair) (size : Nat) (analyzer : Analyzer) (text : String)

/-- The fragments of an analyzed text begin one behind the other and hold the tokens in their
ranges, and each token is held by one. -/
theorem fragments_of_analysis (terms : List String) :
    (fragments tags size (analyzer.analyze text) text terms).Pairwise
      (fun f g => f.start < g.start) ∧
    (∀ f ∈ fragments tags size (analyzer.analyze text) text terms,
      f.Holds tags terms text.toList (f.tokensWithin (analyzer.analyze text))) ∧
    ∀ t ∈ analyzer.analyze text,
      ∃ f ∈ fragments tags size (analyzer.analyze text) text terms,
        t ∈ f.tokensWithin (analyzer.analyze text) := by
  have hkept := analyzer.keptTokens_analyze text
  obtain ⟨pairs, hpairs, hheld, hall, -⟩ :=
    exists_fragments_held tags size (analyzer.analyze text) text terms
  obtain ⟨stop, htiles⟩ :
      ∃ stop, Tiles 0 (fragments tags size (analyzer.analyze text) text terms) stop := by
    by_cases hnone : keptTokens text.toList 0 (analyzer.analyze text) = []
    · exact ⟨0, by rw [fragments_eq_nil tags size _ text terms hnone]; rfl⟩
    · exact ⟨_, tiles_fragments tags size _ text terms hnone⟩
  rw [hkept] at hheld
  rw [← hpairs] at htiles ⊢
  have hranges : ∀ pair ∈ pairs, ∀ t ∈ pair.2,
      pair.1.start ≤ t.start ∧ t.start < t.stop ∧ t.stop ≤ pair.1.stop := by
    intro pair hpair t ht
    obtain ⟨hstart, -, hstop⟩ := (hall pair hpair).within t ht
    have hmem : t ∈ (pairs.map Prod.snd).flatten :=
      List.mem_flatten_of_mem (List.mem_map_of_mem hpair) ht
    exact ⟨hstart, Analyzer.start_lt_stop (hheld ▸ hmem), hstop⟩
  have hwithin := htiles.tokensWithin_eq hranges
  rw [hheld] at hwithin
  refine ⟨htiles.pairwise_start ?_, ?_, ?_⟩
  · intro f hf
    obtain ⟨pair, hpair, rfl⟩ := List.mem_map.mp hf
    obtain ⟨t, ht⟩ := List.exists_mem_of_ne_nil _ (hall pair hpair).filled
    have := hranges pair hpair t ht
    omega
  · intro f hf
    obtain ⟨pair, hpair, rfl⟩ := List.mem_map.mp hf
    rw [hwithin pair hpair]
    exact hall pair hpair
  · intro t ht
    rw [← hheld] at ht
    obtain ⟨held, hmem, ht⟩ := List.mem_flatten.mp ht
    obtain ⟨pair, hpair, rfl⟩ := List.mem_map.mp hmem
    exact ⟨pair.1, List.mem_map_of_mem hpair, (hwithin pair hpair).symm ▸ ht⟩

variable (query : Query) (field : String)

private theorem score_of_analysis {f : Fragment}
    (hf : f ∈ fragments tags size (analyzer.analyze text) text (query.termsFor field)) :
    f.score = .ofNat (f.termsWithin (analyzer.analyze text) query field).card ∧
      ∀ t ∈ f.tokensWithin (analyzer.analyze text), ⟨field, t.text⟩ ∈ query.positiveTerms →
        ∃ surface, slice? text.toList t.start t.stop = some surface ∧
          tags.around surface <:+: f.text := by
  have hholds := (fragments_of_analysis tags size analyzer text (query.termsFor field)).2.1 f hf
  constructor
  · have hsame : ∀ word ∈ (f.tokensWithin (analyzer.analyze text)).map Token.text,
        decide (word ∈ query.termsFor field) = decide (⟨field, word⟩ ∈ query.positiveTerms) :=
      fun word _ => by simp
    rw [hholds.scored, Fragment.termsWithin, List.filter_congr hsame]
  · intro t ht hterm
    exact infix_of_tagWithin? hholds.shown ht (Query.mem_termsFor.mpr hterm)

private theorem Fragment.termsWithin_nonempty_iff {f : Fragment} {tokens : List Token} :
    (f.termsWithin tokens query field).Nonempty ↔
      ∃ t ∈ f.tokensWithin tokens, ⟨field, t.text⟩ ∈ query.positiveTerms := by
  simp [Finset.Nonempty, termsWithin]

/-- A fragment has no more terms than the query. -/
theorem Fragment.card_termsWithin_le (f : Fragment) (tokens : List Token) :
    (f.termsWithin tokens query field).card ≤ query.positiveTerms.length := by
  have hasked : f.termsWithin tokens query field ⊆
      (query.positiveTerms.map FieldTerm.text).toFinset := by
    intro word hword
    simp only [termsWithin, List.mem_toFinset, List.mem_filter, decide_eq_true_eq] at hword
    exact List.mem_toFinset.mpr (List.mem_map_of_mem (f := FieldTerm.text) hword.2)
  calc (f.termsWithin tokens query field).card
      ≤ (query.positiveTerms.map FieldTerm.text).toFinset.card := Finset.card_le_card hasked
    _ ≤ (query.positiveTerms.map FieldTerm.text).length := List.toFinset_card_le _
    _ = query.positiveTerms.length := List.length_map _

/-- The fragments of an analyzed text that have a term of the query for a field. -/
def matchingFragments : List Fragment :=
  (fragments tags size (analyzer.analyze text) text (query.termsFor field)).filter
    fun f => (f.termsWithin (analyzer.analyze text) query field).Nonempty

private theorem topFragments_eq (count : Nat) :
    topFragments tags size (analyzer.analyze text) text query field count =
      ((matchingFragments tags size analyzer text query field).mergeSort
        fun f g => (f.compareRank g).isLE).take count := by
  have hsame : ∀ f ∈ fragments tags size (analyzer.analyze text) text (query.termsFor field),
      f.score.isPositive =
        decide (f.termsWithin (analyzer.analyze text) query field).Nonempty := by
    intro f hf
    have hscore := (score_of_analysis tags size analyzer text query field hf).1
    rw [Bool.eq_iff_iff, hscore, Binary.isPositive_ofNat isProper_single, Finset.card_pos,
      decide_eq_true_eq]
  rw [topFragments, List.filter_congr hsame, matchingFragments]

private theorem matchingFragments_eq_nil_iff :
    matchingFragments tags size analyzer text query field = [] ↔
      ∀ t ∈ analyzer.analyze text, ⟨field, t.text⟩ ∉ query.positiveTerms := by
  rw [matchingFragments, List.filter_eq_nil_iff]
  constructor
  · intro hnone t ht hterm
    obtain ⟨f, hf, hwithin⟩ :=
      (fragments_of_analysis tags size analyzer text (query.termsFor field)).2.2 t ht
    apply hnone f hf
    rw [decide_eq_true_eq, Fragment.termsWithin_nonempty_iff]
    exact ⟨t, hwithin, hterm⟩
  · intro hnone f hf hmatch
    rw [decide_eq_true_eq, Fragment.termsWithin_nonempty_iff] at hmatch
    obtain ⟨t, ht, hterm⟩ := hmatch
    exact hnone t (List.mem_filter.mp ht).1 hterm

variable {tags size analyzer text query field}

private theorem exists_tagged_of_matching {f : Fragment}
    (hf : f ∈ matchingFragments tags size analyzer text query field) :
    ∃ t ∈ f.tokensWithin (analyzer.analyze text), ⟨field, t.text⟩ ∈ query.positiveTerms ∧
      ∃ surface, slice? text.toList t.start t.stop = some surface ∧
        tags.around surface <:+: f.text := by
  obtain ⟨hcut, hmatch⟩ := List.mem_filter.mp hf
  rw [decide_eq_true_eq, Fragment.termsWithin_nonempty_iff] at hmatch
  obtain ⟨t, ht, hterm⟩ := hmatch
  have hshown := (score_of_analysis tags size analyzer text query field hcut).2
  exact ⟨t, ht, hterm, hshown t ht hterm⟩

private theorem text_ne_nil_of_matching {f : Fragment}
    (hf : f ∈ matchingFragments tags size analyzer text query field) : f.text ≠ [] := by
  obtain ⟨t, ht, -, surface, hslice, hwithin⟩ := exists_tagged_of_matching hf
  obtain ⟨_, _, -, -, hstop⟩ := slice?_eq_some_iff.mp hslice
  have hfilled := Analyzer.start_lt_stop (List.mem_filter.mp ht).1
  intro hnil
  rw [hnil, List.infix_nil] at hwithin
  simp only [TagPair.around, List.append_eq_nil_iff] at hwithin
  rw [hwithin.1.2] at hstop
  simp only [byteSize] at hstop
  omega

end Analyzed

private theorem intercalate_ne_nil {parts : List (List Char)} (hparts : parts ≠ [])
    (hfilled : ∀ part ∈ parts, part ≠ []) (separator : List Char) :
    separator.intercalate parts ≠ [] := by
  obtain ⟨part, others, rfl⟩ := List.exists_cons_of_ne_nil hparts
  obtain ⟨c, rest, rfl⟩ := List.exists_cons_of_ne_nil (hfilled part List.mem_cons_self)
  rw [List.intercalate_cons_cons_left]
  exact List.cons_ne_nil _ _

/-- What is highlighted of an analyzed text. There is nothing to show exactly if no fragments are
asked for or no token is a term of the query for the field. Otherwise the best fragments that have
such a term are shown, each with a term between the tags. Their score is the number of terms rounded
to single precision, and they are shown in the order of their scores and starts: none that is left
out would stand before one that is shown. As long as no fragment has more terms than single
precision tells apart, that is the order of their ranks by the number of terms itself. -/
theorem highlight_best (tags : TagPair) (size count : Nat) (analyzer : Analyzer) (text : String)
    (query : Query) (field : String) (separator : List Char) :
    let tokens := analyzer.analyze text
    let shown := highlight tags size tokens text query field count separator
    let matching := matchingFragments tags size analyzer text query field
    (shown = [] ↔ count = 0 ∨ ∀ t ∈ tokens, ⟨field, t.text⟩ ∉ query.positiveTerms) ∧
    (∀ f ∈ matching, f.score = .ofNat (f.termsWithin tokens query field).card) ∧
    ∃ best : List Fragment,
      shown = separator.intercalate (best.map Fragment.text) ∧
      best.length = min count matching.length ∧ best ⊆ matching ∧
      (∀ f ∈ best, ∃ t ∈ f.tokensWithin tokens, ⟨field, t.text⟩ ∈ query.positiveTerms ∧
        ∃ surface, slice? text.toList t.start t.stop = some surface ∧
          tags.around surface <:+: f.text) ∧
      best.Pairwise Fragment.ScoredBefore ∧
      (∀ f ∈ best, ∀ g ∈ matching, g ∉ best → f.ScoredBefore g) ∧
      ((∀ f ∈ matching, (f.termsWithin tokens query field).card ≤ 2 ^ 24) →
        best.Pairwise (Fragment.Outranks tokens query field) ∧
        ∀ f ∈ best, ∀ g ∈ matching, g ∉ best → f.Outranks tokens query field g) := by
  intro tokens shown matching
  have hstarts := (fragments_of_analysis tags size analyzer text (query.termsFor field)).1
  have hscore : ∀ f ∈ matching, f.score = .ofNat (f.termsWithin tokens query field).card :=
    fun f hf =>
      (score_of_analysis tags size analyzer text query field (List.mem_filter.mp hf).1).1
  have htop := topFragments_eq tags size analyzer text query field count
  have hranked : (matching.mergeSort fun f g => (f.compareRank g).isLE).Pairwise
      Fragment.ScoredBefore := pairwise_scoredBefore (hstarts.filter _)
  have hperm := List.mergeSort_perm matching fun f g => (f.compareRank g).isLE
  generalize (matchingFragments tags size analyzer text query field).mergeSort _ = ranked
    at htop hranked hperm
  have hshown : shown = separator.intercalate ((ranked.take count).map Fragment.text) := by
    rw [← htop]
    rfl
  have hsub : ranked.take count ⊆ matching := fun f hf => hperm.subset (List.mem_of_mem_take hf)
  have hempty : ranked = [] ↔ matching = [] := by
    rw [← List.length_eq_zero_iff, hperm.length_eq, List.length_eq_zero_iff]
  have hnone : ranked.take count = [] ↔
      count = 0 ∨ ∀ t ∈ tokens, ⟨field, t.text⟩ ∉ query.positiveTerms := by
    rw [List.take_eq_nil_iff, hempty]
    exact or_congr_right (matchingFragments_eq_nil_iff tags size analyzer text query field)
  have hfirst : (ranked.take count).Pairwise Fragment.ScoredBefore :=
    hranked.sublist (List.take_sublist count ranked)
  have hleft : ∀ f ∈ ranked.take count, ∀ g ∈ matching, g ∉ ranked.take count →
      f.ScoredBefore g := by
    intro f hf g hg hout
    have hsplit := List.take_append_drop count ranked
    rw [← hsplit] at hranked
    have hg : g ∈ ranked.take count ++ ranked.drop count := hsplit.symm ▸ hperm.symm.subset hg
    have hdropped := (List.mem_append.mp hg).resolve_left hout
    exact (List.pairwise_append.mp hranked).2.2 f hf g hdropped
  refine ⟨?_, hscore, ranked.take count, hshown, ?_, hsub, ?_, hfirst, hleft, ?_⟩
  · rw [← hnone, hshown]
    constructor
    · intro hnothing
      by_contra hsome
      refine intercalate_ne_nil (mt List.map_eq_nil_iff.mp hsome) ?_ separator hnothing
      intro part hpart
      obtain ⟨f, hf, rfl⟩ := List.mem_map.mp hpart
      exact text_ne_nil_of_matching (hsub hf)
    · intro hnothing
      rw [hnothing]
      rfl
  · rw [List.length_take, hperm.length_eq]
  · exact fun f hf => exists_tagged_of_matching (hsub hf)
  · intro hfew
    constructor
    · apply hfirst.imp_of_mem
      intro f g hf hg hbefore
      exact hbefore.outranks (hscore f (hsub hf)) (hscore g (hsub hg)) (hfew f (hsub hf))
        (hfew g (hsub hg))
    · intro f hf g hg hout
      exact (hleft f hf g hg hout).outranks (hscore f (hsub hf)) (hscore g hg) (hfew f (hsub hf))
        (hfew g hg)

def redInk : Query :=
  .bool [(.optional, .term ⟨"f", "red"⟩ 1), (.optional, .term ⟨"f", "ink"⟩ 1)] 1

theorem highlight_best_inks :
    let tokens := Analyzer.standard.analyze "red pen, ink, red ink"
    let matching := matchingFragments ⟨"[", "]"⟩ 9 .standard "red pen, ink, red ink" redInk "f"
    let shown := highlight ⟨"[", "]"⟩ 9 tokens "red pen, ink, red ink" redInk "f" 2 [' ', '/']
    (∀ f ∈ matching, (f.termsWithin tokens redInk "f").card ≤ 2 ^ 24) ∧ shown ≠ [] ∧
    ∃ best : List Fragment, shown = [' ', '/'].intercalate (best.map Fragment.text) ∧
      best.Pairwise (Fragment.Outranks tokens redInk "f") ∧
      ∀ f ∈ best, ∀ g ∈ matching, g ∉ best → f.Outranks tokens redInk "f" g := by
  intro tokens matching shown
  have hfew : ∀ f ∈ matching, (f.termsWithin tokens redInk "f").card ≤ 2 ^ 24 := fun f _ =>
    (Fragment.card_termsWithin_le redInk "f" f tokens).trans (by decide)
  obtain ⟨hempty, -, best, hshown, -, -, -, -, -, hranked⟩ := highlight_best ⟨"[", "]"⟩ 9 2
    .standard "red pen, ink, red ink" redInk "f" [' ', '/']
  obtain ⟨hpairwise, hleft⟩ := hranked hfew
  refine ⟨hfew, ?_, best, hshown, hpairwise, hleft⟩
  intro hnothing
  have hfirst : (⟨"red", 0, 0, 3⟩ : Token) ∈ tokens := by decide +kernel
  rcases hempty.mp hnothing with hcount | hnone
  · cases hcount
  · exact hnone _ hfirst (by decide)

end PagedSearch
