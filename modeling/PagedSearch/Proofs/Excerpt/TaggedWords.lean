import PagedSearch.Proofs.Excerpt.Best
import PagedSearch.Proofs.Text.Lowercase

/-!
# Tagged words

The standard analyzer lists the words of a text in their order, each with its lowercase term. All of
them have their place in the text, so its fragments show each word that is a term between tags once,
and nothing else.
-/

namespace PagedSearch

open Unicode (isWordChar)

def Token.range (t : Token) : Nat × Nat := (t.start, t.stop)

/-- Tokens list the maximal runs of word characters of a text in their order, each with the term of
its characters, and nothing between them is part of a word. -/
structure ListsRuns (text : List Char) (term : String → String) (tokens : List Token) : Prop where
  numbered : tokens.map Token.position = List.range tokens.length
  placed : ∀ t ∈ tokens, t.start < t.stop ∧
    ∃ surface, slice? text t.start t.stop = some surface ∧ t.text = term (.ofList surface)
  ordered : tokens.Pairwise fun t u => t.stop < u.start
  runs : ∀ w : WordSpan, w.IsRun text ↔
    ∃ t ∈ tokens, t.start = w.start ∧ slice? text t.start t.stop = some w.chars
  between : ∀ gap ∈ gaps? text 0 (tokens.map Token.range),
    ∃ part, gap = some part ∧ ∀ c ∈ part, isWordChar c = false

namespace ListsRuns

variable {text : List Char} {term : String → String} {tokens : List Token}

private theorem exists_run (h : ListsRuns text term tokens) {t : Token} (ht : t ∈ tokens) :
    ∃ w : WordSpan, w.IsRun text ∧ w.range = t.range ∧ t.text = term (.ofList w.chars) := by
  obtain ⟨-, surface, hslice, hterm⟩ := h.placed t ht
  obtain ⟨-, -, -, -, hstop⟩ := slice?_eq_some_iff.mp hslice
  exact ⟨⟨t.start, surface⟩, (h.runs _).mpr ⟨t, ht, rfl, hslice⟩, Prod.ext rfl hstop.symm, hterm⟩

private theorem exists_token (h : ListsRuns text term tokens) {w : WordSpan} (hrun : w.IsRun text) :
    ∃ t ∈ tokens, t.range = w.range ∧ t.text = term (.ofList w.chars) := by
  obtain ⟨t, ht, hstart, hslice⟩ := (h.runs w).mp hrun
  obtain ⟨-, surface, hsurface, hterm⟩ := h.placed t ht
  obtain rfl : surface = w.chars := Option.some.inj (hsurface.symm.trans hslice)
  obtain ⟨-, -, -, -, hstop⟩ := slice?_eq_some_iff.mp hslice
  refine ⟨t, ht, Prod.ext hstart ?_, hterm⟩
  rw [Token.range, WordSpan.range, WordSpan.stop, hstop, hstart]

private theorem nodup_ranges (h : ListsRuns text term tokens) : (tokens.map Token.range).Nodup := by
  refine List.pairwise_map.mpr (h.ordered.imp_of_mem fun {t u} ht _ hlt hsame => ?_)
  have hstart : t.start = u.start := congrArg Prod.fst hsame
  have := (h.placed t ht).1
  omega

private theorem mem_ranges_iff (h : ListsRuns text term tokens) (terms : List String)
    {range : Nat × Nat} :
    range ∈ (tokens.filter (·.text ∈ terms)).map Token.range ↔
      ∃ w : WordSpan, w.IsRun text ∧ term (.ofList w.chars) ∈ terms ∧ w.range = range := by
  rw [List.mem_map]
  constructor
  · rintro ⟨t, ht, rfl⟩
    obtain ⟨ht, hterm⟩ := List.mem_filter.mp ht
    obtain ⟨w, hrun, hrange, hword⟩ := h.exists_run ht
    exact ⟨w, hrun, by simpa [hword] using hterm, hrange⟩
  · rintro ⟨w, hrun, hterm, rfl⟩
    obtain ⟨t, ht, hrange, hword⟩ := h.exists_token hrun
    exact ⟨t, List.mem_filter.mpr ⟨ht, by simpa [hword] using hterm⟩, hrange⟩

end ListsRuns

section Tokens

variable {text : List Char} {term : String → String}

def runTokens (term : String → String) (text : List Char) : List Token :=
  (wordSpans 0 text).mapIdx fun place w => ⟨term (.ofList w.chars), place, w.start, w.stop⟩

private theorem Analyzer.analyze_standard (text : String) :
    standard.analyze text = runTokens standardTerm text.toList := by
  rw [analyze, tokenize, runTokens]
  exact List.ext_getElem (by simp) fun place _ _ => by simp [WordSpan.toToken, Token.lowercase_eq]

private theorem map_position_runTokens (term : String → String) (text : List Char) :
    (runTokens term text).map Token.position = List.range (runTokens term text).length :=
  List.ext_getElem (by simp) fun place _ _ => by simp [runTokens]

private theorem map_range_runTokens (term : String → String) (text : List Char) :
    (runTokens term text).map Token.range = (wordSpans 0 text).map WordSpan.range :=
  List.ext_getElem (by simp [runTokens]) fun place _ _ => by
    simp [runTokens, Token.range, WordSpan.range]

private theorem pairwise_runTokens (term : String → String) (text : List Char) :
    (runTokens term text).Pairwise fun t u => t.stop < u.start := by
  have hranges : ((runTokens term text).map Token.range).Pairwise fun p q => p.2 < q.1 := by
    rw [map_range_runTokens]
    exact List.pairwise_map.mpr (Scanned.of_wordSpans [] text).pairwise
  exact List.pairwise_map.mp hranges

private theorem listsRuns_runTokens (term : String → String) (text : List Char) :
    ListsRuns text term (runTokens term text) where
  numbered := map_position_runTokens term text
  placed := by
    intro t ht
    obtain ⟨place, hplace, rfl⟩ := List.mem_mapIdx.mp ht
    have hrun := mem_wordSpans_iff.mp (List.getElem_mem hplace)
    exact ⟨hrun.start_lt_stop, _, hrun.slice?_eq, rfl⟩
  ordered := pairwise_runTokens term text
  runs := by
    intro w
    constructor
    · intro hrun
      obtain ⟨place, hplace, rfl⟩ := List.mem_iff_getElem.mp (mem_wordSpans_iff.mpr hrun)
      exact ⟨_, List.mem_mapIdx.mpr ⟨place, hplace, rfl⟩, rfl, hrun.slice?_eq⟩
    · rintro ⟨t, ht, hstart, hslice⟩
      obtain ⟨place, hplace, rfl⟩ := List.mem_mapIdx.mp ht
      have hrun := mem_wordSpans_iff.mp (List.getElem_mem hplace)
      obtain ⟨start, chars⟩ := w
      obtain rfl := hstart
      obtain rfl := Option.some.inj (hrun.slice?_eq.symm.trans hslice)
      exact hrun
  between := by
    rw [map_range_runTokens]
    exact (Scanned.of_wordSpans [] text).gaps_between (List.nil_append text)

end Tokens

section Tagged

def taggedRanges (offset : Nat) : List Glyph → List (Nat × Nat)
  | [] => []
  | .plain c :: rest => taggedRanges (offset + c.utf8Size) rest
  | .tagged surface :: rest =>
    (offset, offset + byteSize surface) :: taggedRanges (offset + byteSize surface) rest

private theorem taggedRanges_append (offset : Nat) (front back : List Glyph) :
    taggedRanges offset (front ++ back) = taggedRanges offset front ++
      taggedRanges (offset + byteSize (front.flatMap Glyph.bare)) back := by
  induction front generalizing offset with
  | nil => rfl
  | cons g front ih =>
    cases g with
    | plain c =>
      simp only [List.cons_append, taggedRanges, ih, List.flatMap_cons, Glyph.bare,
        List.nil_append, byteSize, Nat.add_assoc]
    | tagged surface =>
      simp only [List.cons_append, taggedRanges, ih, List.flatMap_cons, Glyph.bare,
        byteSize_append, Nat.add_assoc]

private theorem taggedRanges_plain (offset : Nat) (text : List Char) :
    taggedRanges offset (text.map .plain) = [] := by
  induction text generalizing offset with
  | nil => rfl
  | cons c rest ih => rw [List.map_cons, taggedRanges, ih]

variable {terms : List String} {earlier tail : List Char}

private theorem PlacedToken.taggedRanges_glyphs (offset : Nat) (t : PlacedToken) :
    taggedRanges offset (t.glyphs terms) =
      if t.text ∈ terms then [(offset + byteSize t.gap, offset + byteSize t.chars)] else [] := by
  rw [glyphs, taggedRanges_append, taggedRanges_plain, Glyph.flatMap_bare_plain]
  by_cases hterm : t.text ∈ terms
  · simp [hterm, taggedRanges, chars, byteSize_append, Nat.add_assoc]
  · simp [hterm, taggedRanges_plain]

private theorem StandAt.taggedRanges_eq {placed : List PlacedToken} {held : List Token}
    (h : StandAt earlier placed held) :
    taggedRanges (byteSize earlier) (glyphsOf terms (placed, tail)) =
      (held.filter (·.text ∈ terms)).map Token.range := by
  induction h with
  | nil => exact taggedRanges_plain _ tail
  | @cons earlier p others t rest word starts stops behind ih =>
    have hglyphs : glyphsOf terms (p :: others, tail) =
        p.glyphs terms ++ glyphsOf terms (others, tail) := by
      simp [glyphsOf]
    rw [hglyphs, taggedRanges_append, PlacedToken.flatMap_bare_glyphs, ← byteSize_append, ih,
      PlacedToken.taggedRanges_glyphs, ← byteSize_append, ← byteSize_append, ← starts, ← stops,
      word]
    by_cases hterm : t.text ∈ terms <;> simp [hterm, Token.range]

private theorem exists_shown (size : Nat) (tokens : List Token) (text : String)
    (terms : List String) :
    ∃ shown : List (List Glyph),
      (∀ tags, List.Forall₂ (fun f gs => f.text = gs.flatMap (Glyph.chars tags))
        (fragments tags size tokens text terms) shown) ∧
      (keptTokens text.toList 0 tokens ≠ [] → shown.flatten.flatMap Glyph.bare = text.toList) ∧
      taggedRanges 0 shown.flatten =
        ((keptTokens text.toList 0 tokens).filter (·.text ∈ terms)).map Token.range := by
  set placed := placeTokens 0 text.toList tokens
  set cut := cutTokens size [] placed.1
  have hflatten : cut.flatten = placed.1 := flatten_cutTokens size [] placed.1
  have hstand : StandAt [] placed.1 (keptTokens text.toList 0 tokens) :=
    standAt_placeTokens [] text.toList tokens
  have hshown := flatten_fragmentGlyphs terms placed.2 cut
  rw [hflatten] at hshown
  refine ⟨fragmentGlyphs terms placed.2 cut, fun tags => ?_, fun hkept => ?_, ?_⟩
  · exact (fragmentsFrom_glyphs tags terms placed.2 0 cut).imp fun f gs h => h.1
  · have hfilled : cut ≠ [] := by
      intro hnone
      have hlength := hstand.length_eq
      rw [← hflatten, hnone] at hlength
      exact hkept (List.length_eq_zero_iff.mp hlength.symm)
    rw [hshown, if_neg (by simpa using hfilled), flatMap_bare_glyphsOf]
    exact placeTokens_text 0 text.toList tokens
  · rw [hshown]
    exact hstand.taggedRanges_eq

end Tagged

/-- The standard analysis of a text lists its maximal runs of word characters: numbered from zero,
in ascending order on slices that are not empty and do not touch, with no word character between
them, each with the term of its surface form. The test of the highlighter keeps all of them, so that
none is left without a place. Whatever the terms and the size of the fragments, these show the whole
text, and the matches that stand between tags, all fragments together, are the words that are terms,
each of them once. -/
theorem analyze_maximal_runs (text : String) :
    let tokens := Analyzer.standard.analyze text
    ListsRuns text.toList standardTerm tokens ∧
    keptTokens text.toList 0 tokens = tokens ∧
    (placeTokens 0 text.toList tokens).1.map PlacedToken.text = tokens.map Token.text ∧
    ∀ (size : Nat) (terms : List String), ∃ shown : List (List Glyph),
      (∀ tags, List.Forall₂ (fun f gs => f.text = gs.flatMap (Glyph.chars tags))
        (fragments tags size tokens text terms) shown) ∧
      (tokens ≠ [] → shown.flatten.flatMap Glyph.bare = text.toList) ∧
      (taggedRanges 0 shown.flatten).Nodup ∧
      ∀ range, range ∈ taggedRanges 0 shown.flatten ↔
        ∃ w : WordSpan, w.IsRun text.toList ∧ standardTerm (.ofList w.chars) ∈ terms ∧
          w.range = range := by
  intro tokens
  have hruns : ListsRuns text.toList standardTerm tokens := by
    rw [show tokens = runTokens standardTerm text.toList from Analyzer.analyze_standard text]
    exact listsRuns_runTokens standardTerm text.toList
  have hkept : keptTokens text.toList 0 tokens = tokens := Analyzer.standard.keptTokens_analyze text
  refine ⟨hruns, hkept, (Analyzer.standard.place_words text).1, fun size terms => ?_⟩
  obtain ⟨shown, hwritten, hwhole, htagged⟩ := exists_shown size tokens text terms
  rw [hkept] at hwhole htagged
  refine ⟨shown, hwritten, hwhole, ?_, fun range => ?_⟩
  · rw [htagged]
    exact hruns.nodup_ranges.sublist (List.filter_sublist.map Token.range)
  · rw [htagged]
    exact hruns.mem_ranges_iff terms

theorem analyze_maximal_runs_pen :
    WordSpan.IsRun "İz, pÉN".toList ⟨5, "pÉN".toList⟩ ∧
    (∃ t ∈ Analyzer.standard.analyze "İz, pÉN", t.text = "pén" ∧ t.start = 5 ∧ t.stop = 9) ∧
    ∃ shown : List (List Glyph),
      List.Forall₂ (fun f gs => f.text = gs.flatMap (Glyph.chars ⟨"[", "]"⟩))
        (fragments ⟨"[", "]"⟩ 3 (Analyzer.standard.analyze "İz, pÉN") "İz, pÉN" ["pén"]) shown ∧
      (taggedRanges 0 shown.flatten).count (5, 9) = 1 := by
  have hrun : WordSpan.IsRun "İz, pÉN".toList ⟨5, "pÉN".toList⟩ :=
    ⟨by decide, by decide, "İz, ".toList, [], by decide, by decide, by decide, by decide⟩
  have hterm : standardTerm (.ofList "pÉN".toList) = "pén" := by decide
  obtain ⟨hlists, -, -, hshown⟩ := analyze_maximal_runs "İz, pÉN"
  refine ⟨hrun, ?_, ?_⟩
  · obtain ⟨t, ht, hrange, htext⟩ := hlists.exists_token hrun
    exact ⟨t, ht, htext.trans hterm, congrArg Prod.fst hrange, congrArg Prod.snd hrange⟩
  · obtain ⟨shown, hwritten, -, hnodup, hmatches⟩ := hshown 3 ["pén"]
    refine ⟨shown, hwritten _, List.count_eq_one_of_mem hnodup ?_⟩
    exact (hmatches (5, 9)).mpr ⟨_, hrun, by rw [hterm]; exact List.mem_cons_self, by decide⟩

end PagedSearch
