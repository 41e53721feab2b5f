import PagedSearch.Proofs.Excerpt.Repair
import PagedSearch.Proofs.Query.Terms
import PagedSearch.Proofs.Result.Tags

/-!
# Snippets

What a snippet shows of a stored value: matches between the tags of the request, with escaped text
around them, and a match for every value that has one. Both depend on the value. Marks that are
stored in it become tags, and matches that stand behind an ampersand may be dropped.
-/

namespace PagedSearch

/-- The tokens of a stored value that the query has among its positive terms for the field. -/
def Query.matches (query : Query) (analyzer : Analyzer) (field : StoredField) : List Token :=
  (analyzer.analyze field.value.display).filter fun t => ⟨field.name, t.text⟩ ∈ query.positiveTerms

section Marked

variable {analyzer : Analyzer} {query : Query} {field : StoredField}

private theorem surfaces_of_matches (query : Query) (analyzer : Analyzer) (field : StoredField) :
    (glyphsOf (query.termsFor field.name) (analyzer.place field.value.display)).flatMap
        Glyph.surfaces =
      (query.matches analyzer field).map (·.surface field.value.display.toList) := by
  have hplaces := congrArg
    (fun l => (l.filter fun p => p.1 ∈ query.termsFor field.name).map Prod.snd)
    (analyzer.place_surfaces field.value.display)
  rw [surfaces_glyphsOf, Query.matches]
  simpa [List.filter_map, Function.comp_def] using hplaces

private theorem exists_frame (gs : List Glyph) :
    ∃ (lead : List Char) (pieces : List (List Char × List Char)),
      gs = lead.map .plain ++ pieces.flatMap fun p => .tagged p.1 :: p.2.map .plain := by
  induction gs with
  | nil => exact ⟨[], [], rfl⟩
  | cons g rest ih =>
    obtain ⟨lead, pieces, rfl⟩ := ih
    cases g with
    | plain c => exact ⟨c :: lead, pieces, rfl⟩
    | tagged s => exact ⟨[], (s, lead) :: pieces, by simp⟩

private theorem part_of_frame {lead text : List Char} {pieces : List (List Char × List Char)}
    (htext : text ∈ lead :: pieces.map Prod.snd) :
    text.map Glyph.plain <:+:
      lead.map .plain ++ pieces.flatMap fun p => .tagged p.1 :: p.2.map .plain := by
  rcases List.mem_cons.mp htext with rfl | htext
  · exact List.infix_append_left
  · obtain ⟨p, hp, rfl⟩ := List.mem_map.mp htext
    have hpiece := List.infix_of_mem_flatten
      (List.mem_map_of_mem (f := fun p => Glyph.tagged p.1 :: p.2.map Glyph.plain) hp)
    rw [← List.flatMap_def] at hpiece
    exact ((List.suffix_cons _ _).isInfix.trans hpiece).trans List.infix_append_right

private theorem surfaces_frame (lead : List Char) (pieces : List (List Char × List Char)) :
    (lead.map Glyph.plain ++ pieces.flatMap fun p => Glyph.tagged p.1 :: p.2.map .plain).flatMap
      Glyph.surfaces = pieces.map Prod.fst := by
  induction pieces with
  | nil => simp
  | cons p rest ih => simp_all [Glyph.surfaces]

private theorem chars_frame (tags : TagPair) (lead : List Char)
    (pieces : List (List Char × List Char)) :
    (lead.map Glyph.plain ++ pieces.flatMap fun p => Glyph.tagged p.1 :: p.2.map .plain).flatMap
      (Glyph.chars tags) = lead ++ pieces.flatMap fun p => tags.around p.1 ++ p.2 := by
  induction pieces with
  | nil => simp
  | cons p rest ih => simp_all [Glyph.chars]

private theorem count_frame {α : Type} {tags : TagPair} {lead : List Char} (y : α → List Char)
    {pieces : List (α × List Char)} (hlead : '<' ∉ lead)
    (hpieces : ∀ p ∈ pieces, '<' ∉ y p.1 ∧ '<' ∉ p.2) :
    (lead ++ pieces.flatMap fun p => tags.around (y p.1) ++ p.2).count '<' =
      pieces.length * (tags.before.toList.count '<' + tags.after.toList.count '<') := by
  rw [List.count_append, List.count_eq_zero_of_not_mem hlead, Nat.zero_add]
  induction pieces with
  | nil => simp
  | cons p rest ih =>
    obtain ⟨⟨hy, hx⟩, hrest⟩ := List.forall_mem_cons.mp hpieces
    have hpiece : (tags.around (y p.1) ++ p.2).count '<' =
        tags.before.toList.count '<' + tags.after.toList.count '<' := by
      simp [TagPair.around, List.count_append, List.count_eq_zero_of_not_mem hy,
        List.count_eq_zero_of_not_mem hx]
    rw [List.flatMap_cons, List.count_append, hpiece, ih hrest, List.length_cons, Nat.add_mul,
      Nat.one_mul, Nat.add_comm]

private theorem insertTags_frame {request : Request} (htags : request.tags.SparesMark)
    {lead : List Char} {pieces : List (List Char × List Char)}
    (hwords : ∀ p ∈ pieces, '!' ∉ escapeText p.1)
    (hmarks : ∀ text ∈ lead :: pieces.map Prod.snd, ¬ TagPair.marks.before.toList <:+: text ∧
      ¬ TagPair.marks.after.toList <:+: text) :
    request.insertTags (escapeText (lead ++
        pieces.flatMap fun p => TagPair.marks.around p.1 ++ p.2)) =
      escapeText lead ++ pieces.flatMap fun p =>
        request.tags.around (escapeText p.1) ++ escapeText p.2 := by
  induction pieces generalizing lead with
  | nil =>
    obtain ⟨hbefore, hafter⟩ := hmarks lead (by simp)
    simpa using Request.insertTags_escapeText hbefore hafter
  | cons piece rest ih =>
    obtain ⟨y, x⟩ := piece
    obtain ⟨hbefore, hafter⟩ := hmarks lead (by simp)
    have hy : '!' ∉ escapeText y := hwords (y, x) (by simp)
    have hrest := ih (fun p hp => hwords p (by simp [hp]))
      (fun text htext => hmarks text (List.mem_cons_of_mem _ (by simpa using htext)))
    simp only [List.flatMap_cons, escapeText_append, escapeText_around, List.append_assoc]
      at hrest ⊢
    rw [Request.insertTags_around htags hy, Request.insertTags_escapeText hbefore hafter, hrest]

private theorem bare_glyphsOf (analyzer : Analyzer) (value : String) (terms : List String) :
    (glyphsOf terms (analyzer.place value)).flatMap Glyph.bare = value.toList := by
  rw [flatMap_bare_glyphsOf]
  exact placeTokens_text 0 value.toList (analyzer.analyze value)

/-- The glyphs that a snippet is written from, once the best fragments are joined and repaired. -/
theorem exists_snippet_glyphs (request : Request) (analyzer : Analyzer) (query : Query)
    (field : StoredField) :
    ∃ kept : List Glyph,
      request.snippet analyzer query field.name field.value.display =
        request.insertTags (escapeText (kept.flatMap (Glyph.chars .marks))) ∧
      (kept.flatMap Glyph.surfaces).Subperm
        ((query.matches analyzer field).map (·.surface field.value.display.toList)) ∧
      (∀ p, Glyph.plain ' ' ∉ p → p <:+: kept → p <:+: ['.', '.', '.'].map .plain ∨
        p <:+: glyphsOf (query.termsFor field.name) (analyzer.place field.value.display)) ∧
      (0 < request.snippets → query.matches analyzer field ≠ [] →
        (∀ t ∈ query.matches analyzer field, t.StandsFree field.value.display.toList) →
          kept.flatMap Glyph.surfaces ≠ []) := by
  set whole := glyphsOf (query.termsFor field.name) (analyzer.place field.value.display)
    with hwhole
  have hsurfaces := surfaces_of_matches query analyzer field
  obtain ⟨chosen, hhighlight, hwithin, hsub, hshown⟩ := highlight_glyphs .marks
    request.lengthLimit request.snippets analyzer field.value.display query field.name ellipsis
  set joined := (ellipsis.map Glyph.plain).intercalate chosen with hjoined
  have hjoinedSurfaces : joined.flatMap Glyph.surfaces = chosen.flatten.flatMap Glyph.surfaces :=
    surfaces_join chosen
  have hwords : ShowsWords joined := by
    intro s hs
    rw [hjoinedSurfaces] at hs
    exact showsWords_glyphsOf analyzer _ _ s (hsub.subset hs)
  obtain ⟨kept, hrepaired, hfewer, hall, hparts⟩ := repairText_glyphs hwords
  refine ⟨kept, ?_, ?_, ?_, ?_⟩
  · rw [Request.snippet, hhighlight, hrepaired]
  · rw [← hsurfaces]
    rw [hjoinedSurfaces] at hfewer
    exact hfewer.subperm.trans hsub
  · intro p hspace hp
    rcases hparts p hspace hp with hdots | hp
    · exact .inl hdots
    · rcases infix_of_infix_join hspace hp with hdots | ⟨part, hpart, hp⟩
      · exact .inl hdots
      · exact .inr (hp.trans (hwithin part hpart))
  · intro hcount hmatches hfree
    have hstored : ¬ ShowsStranded whole := by
      apply not_showsStranded_of_standsFree
      intro t ht hterm
      exact hfree t (List.mem_filter.mpr ⟨ht, by simpa using hterm⟩)
    have hstranded : ¬ ShowsStranded joined := by
      intro h
      obtain ⟨part, hpart, hpartStranded⟩ := showsStranded_join h
      exact hstored (hpartStranded.of_part (hwithin part hpart))
    rw [hall hstranded, hjoinedSurfaces]
    apply hshown hcount
    rw [hsurfaces]
    simpa using hmatches

end Marked

namespace Request

variable {request : Request} {analyzer : Analyzer} {query : Query} {field : StoredField}

private theorem showField_of_snippet_ne_nil (hsnippets : 0 < request.snippets)
    (hsnippet : request.snippet analyzer query field.name field.value.display ≠ []) :
    request.showField analyzer query field =
      ⟨field.name, true, .ofList (request.snippet analyzer query field.name field.value.display)⟩ := by
  have hcount : request.snippets ≠ 0 := by omega
  simp [showField, hcount, hsnippet]

private theorem content_of_isSnippet
    (h : (request.showField analyzer query field).isSnippet = true) :
    (request.showField analyzer query field).content.toList =
      request.snippet analyzer query field.name field.value.display := by
  by_cases hsnippets : request.snippets = 0
  · simp [showField, hsnippets] at h
  · by_cases hsnippet : request.snippet analyzer query field.name field.value.display = []
    · simp [showField, hsnippet] at h
    · rw [showField_of_snippet_ne_nil (by omega) hsnippet, String.toList_ofList]

private theorem word_surface {t : Token} (ht : t ∈ query.matches analyzer field) :
    '!' ∉ escapeText (t.surface field.value.display.toList) := by
  have hwords := showsWords_glyphsOf analyzer field.value.display (query.termsFor field.name)
  rw [ShowsWords, surfaces_of_matches] at hwords
  intro h
  obtain ⟨c, hc, hshown⟩ := List.mem_flatMap.mp h
  have hword := hwords _ (List.mem_map_of_mem ht) c hc
  rcases escapeMarkup_cases c with ⟨hself, -⟩ | ⟨name, hwritten, hreference, -⟩
  · rw [hself] at hshown
    obtain rfl := List.mem_singleton.mp hshown
    exact absurd hword (by decide)
  · rw [hwritten] at hshown
    exact absurd (mem_referenceChars hreference '!' hshown) (by decide)

private theorem unmarked {mark text : List Char} {kept whole : List Glyph}
    (hspace : ' ' ∉ mark) (hdots : ¬ mark <:+: ['.', '.', '.'])
    (hwhole : ¬ mark <:+: whole.flatMap Glyph.bare)
    (hparts : ∀ p, Glyph.plain ' ' ∉ p → p <:+: kept →
      p <:+: ['.', '.', '.'].map .plain ∨ p <:+: whole)
    (htext : text.map Glyph.plain <:+: kept) : ¬ mark <:+: text := by
  intro hmark
  have hplain : Glyph.plain ' ' ∉ mark.map Glyph.plain := by simpa using hspace
  rcases hparts _ hplain ((hmark.map Glyph.plain).trans htext) with h | h
  · exact hdots (by simpa [Glyph.bare] using h.flatMap Glyph.bare)
  · exact hwhole (by simpa using h.flatMap Glyph.bare)

private theorem exists_tokens {text : List Char} {pieces : List (List Char × List Char)}
    {tokens : List Token}
    (h : List.Forall₂ (fun s (t : Token) => s = t.surface text) (pieces.map Prod.fst) tokens) :
    ∃ shown : List (Token × List Char), shown.map Prod.fst = tokens ∧
      pieces = shown.map fun p => (p.1.surface text, p.2) := by
  induction pieces generalizing tokens with
  | nil =>
    obtain rfl := List.forall₂_nil_left_iff.mp h
    exact ⟨[], rfl, rfl⟩
  | cons p rest ih =>
    obtain ⟨y, x⟩ := p
    obtain ⟨t, others, rfl, hothers, rfl⟩ := List.forall₂_cons_left_iff.mp h
    obtain ⟨shown, rfl, rfl⟩ := ih hothers
    exact ⟨(t, x) :: shown, rfl, rfl⟩

section Sample

def boldRequest : Request where
  toSearchSettings := { SearchSettings.standard with snippets := 1, tags := ⟨"<b>", "</b>"⟩ }
  query := "fox"
  location := "docs"
  name := none

def foxQuery : Query := .term ⟨"f", "fox"⟩ 1

private theorem bold_snippet {value : String} {placed : List PlacedToken} {tail : List Char}
    {f : Fragment}
    (hplaced : placeTokens 0 value.toList (Analyzer.standard.analyze value) = (placed, tail))
    (hfragments : fragmentsFrom .marks ["fox"] tail 0 (cutTokens 0 [] placed) = [f])
    (hscore : f.score.isPositive = true) :
    boldRequest.snippet .standard foxQuery "f" value =
      boldRequest.insertTags (escapeText (repairText ellipsis f.text)) := by
  have hterms : foxQuery.termsFor "f" = ["fox"] := by cbv
  have hbest : topFragments .marks 0 (Analyzer.standard.analyze value) value foxQuery "f" 1 =
      [f] := by
    simp [topFragments, fragments, hplaced, hterms, hfragments, hscore]
  have hhighlight : highlight .marks 0 (Analyzer.standard.analyze value) value foxQuery "f" 1
      ellipsis = f.text := by
    simp [highlight, hbest]
  exact congrArg (fun text => boldRequest.insertTags (escapeText (repairText ellipsis text)))
    hhighlight

private theorem bold_shown {value : String} {shown : List Char} (hne : shown ≠ [])
    (hsnippet : boldRequest.snippet .standard foxQuery "f" value = shown) :
    boldRequest.showField .standard foxQuery ⟨"f", .text value⟩ = ⟨"f", true, .ofList shown⟩ := by
  subst hsnippet
  exact @showField_of_snippet_ne_nil boldRequest .standard foxQuery ⟨"f", .text value⟩
    (by decide) hne

private theorem analyze_samples :
    Analyzer.standard.analyze "a & <fox>" = [⟨"a", 0, 0, 1⟩, ⟨"fox", 1, 5, 8⟩] ∧
      Analyzer.standard.analyze "fox !!!SNIPPETBEGIN" =
        [⟨"fox", 0, 0, 3⟩, ⟨"snippetbegin", 1, 7, 19⟩] ∧
      Analyzer.standard.analyze " &fox" = [⟨"fox", 0, 2, 5⟩] := by
  decide +kernel

private theorem place_spaced :
    placeTokens 0 "a & <fox>".toList (Analyzer.standard.analyze "a & <fox>") =
      ([⟨[], ['a'], "a"⟩, ⟨" & <".toList, "fox".toList, "fox"⟩], ['>']) := by
  have hfirst : (⟨"a", 0, 0, 1⟩ : Token).place? 0 "a & <fox>".toList =
      some (⟨[], ['a'], "a"⟩, " & <fox>".toList) := Token.place?_eq_some_iff.mpr (by decide)
  have hsecond : (⟨"fox", 1, 5, 8⟩ : Token).place? 1 " & <fox>".toList =
      some (⟨" & <".toList, "fox".toList, "fox"⟩, ['>']) :=
    Token.place?_eq_some_iff.mpr (by decide)
  simp only [analyze_samples.1, placeTokens, hfirst, hsecond]

private theorem place_mark :
    placeTokens 0 "fox !!!SNIPPETBEGIN".toList (Analyzer.standard.analyze "fox !!!SNIPPETBEGIN") =
      ([⟨[], "fox".toList, "fox"⟩, ⟨" !!!".toList, "SNIPPETBEGIN".toList, "snippetbegin"⟩], []) := by
  have hfirst : (⟨"fox", 0, 0, 3⟩ : Token).place? 0 "fox !!!SNIPPETBEGIN".toList =
      some (⟨[], "fox".toList, "fox"⟩, " !!!SNIPPETBEGIN".toList) :=
    Token.place?_eq_some_iff.mpr (by decide)
  have hsecond : (⟨"snippetbegin", 1, 7, 19⟩ : Token).place? 3 " !!!SNIPPETBEGIN".toList =
      some (⟨" !!!".toList, "SNIPPETBEGIN".toList, "snippetbegin"⟩, []) :=
    Token.place?_eq_some_iff.mpr (by decide)
  simp only [analyze_samples.2.1, placeTokens, hfirst, hsecond]

private theorem place_ampersand :
    placeTokens 0 " &fox".toList (Analyzer.standard.analyze " &fox") =
      ([⟨[' ', '&'], "fox".toList, "fox"⟩], []) := by
  have hplace : (⟨"fox", 0, 2, 5⟩ : Token).place? 0 " &fox".toList =
      some (⟨[' ', '&'], "fox".toList, "fox"⟩, []) := Token.place?_eq_some_iff.mpr (by decide)
  simp only [analyze_samples.2.2, placeTokens, hplace]

end Sample

/-- Stored text that holds no mark brings no tag into a snippet: the snippet shows matches of the
value, none more often than the value has it, each between the tags, and escaped text between
them. -/
theorem snippet_tags_only_matches (htags : request.tags.SparesMark)
    (hbefore : ¬ TagPair.marks.before.toList <:+: field.value.display.toList)
    (hafter : ¬ TagPair.marks.after.toList <:+: field.value.display.toList)
    (hsnippet : (request.showField analyzer query field).isSnippet = true) :
    ∃ (lead : List Char) (pieces : List (Token × List Char)),
      (pieces.map Prod.fst).Subperm (query.matches analyzer field) ∧
      (request.showField analyzer query field).content.toList =
        lead ++ pieces.flatMap (fun p =>
          request.tags.around (escapeText (p.1.surface field.value.display.toList)) ++ p.2) ∧
      '<' ∉ lead ∧
      (∀ p ∈ pieces, '<' ∉ escapeText (p.1.surface field.value.display.toList) ∧ '<' ∉ p.2) ∧
      (request.showField analyzer query field).content.toList.count '<' =
        pieces.length *
          (request.tags.before.toList.count '<' + request.tags.after.toList.count '<') := by
  have hbare := bare_glyphsOf analyzer field.value.display (query.termsFor field.name)
  obtain ⟨kept, hkept, hsub, hparts, -⟩ := exists_snippet_glyphs request analyzer query field
  obtain ⟨lead, pieces, rfl⟩ := exists_frame kept
  rw [surfaces_frame] at hsub
  rw [chars_frame] at hkept
  have hsurfaces : List.Forall₂ (fun s t => s = t.surface field.value.display.toList)
      ((query.matches analyzer field).map (·.surface field.value.display.toList))
      (query.matches analyzer field) := by
    rw [List.forall₂_map_left_iff, List.forall₂_same]
    exact fun t _ => rfl
  obtain ⟨tokens, htokens, hrel⟩ := exists_subperm_of_forall₂ hsub hsurfaces
  obtain ⟨shown, rfl, rfl⟩ := exists_tokens hrel
  have hbeforeSpace : ' ' ∉ TagPair.marks.before.toList := by decide
  have hafterSpace : ' ' ∉ TagPair.marks.after.toList := by decide
  have hmarks : ∀ text ∈ lead :: (shown.map fun p =>
      (p.1.surface field.value.display.toList, p.2)).map Prod.snd,
      ¬ TagPair.marks.before.toList <:+: text ∧ ¬ TagPair.marks.after.toList <:+: text := by
    intro text htext
    have hpart := part_of_frame htext
    rw [← hbare] at hbefore hafter
    exact ⟨unmarked hbeforeSpace (by decide) hbefore hparts hpart,
      unmarked hafterSpace (by decide) hafter hparts hpart⟩
  have hwords : ∀ p ∈ shown.map (fun p => (p.1.surface field.value.display.toList, p.2)),
      '!' ∉ escapeText p.1 := by
    intro p hp
    obtain ⟨q, hq, rfl⟩ := List.mem_map.mp hp
    exact word_surface (htokens.subset (List.mem_map_of_mem hq))
  have hcontent : (request.showField analyzer query field).content.toList =
      escapeText lead ++ (shown.map fun p => (p.1, escapeText p.2)).flatMap (fun p =>
        request.tags.around (escapeText (p.1.surface field.value.display.toList)) ++ p.2) := by
    rw [content_of_isSnippet hsnippet, hkept, insertTags_frame htags hwords hmarks]
    simp [List.flatMap_map]
  have hlead : '<' ∉ escapeText lead := not_mem_escapeText lead
  have hpieces : ∀ p ∈ shown.map (fun p => (p.1, escapeText p.2)),
      '<' ∉ escapeText (p.1.surface field.value.display.toList) ∧ '<' ∉ p.2 := by
    intro p hp
    obtain ⟨q, -, rfl⟩ := List.mem_map.mp hp
    exact ⟨not_mem_escapeText _, not_mem_escapeText _⟩
  refine ⟨escapeText lead, shown.map fun p => (p.1, escapeText p.2), ?_, hcontent, hlead, hpieces,
    ?_⟩
  · simpa [Function.comp_def] using htokens
  · rw [hcontent]
    exact count_frame (fun t : Token => escapeText (t.surface field.value.display.toList)) hlead
      hpieces

theorem snippet_tags_only_matches_fox :
    ∃ (lead : List Char) (pieces : List (Token × List Char)),
      (pieces.map Prod.fst).Subperm
        (foxQuery.matches .standard ⟨"f", .text "a & <fox>"⟩) ∧
      (boldRequest.showField .standard foxQuery ⟨"f", .text "a & <fox>"⟩).content.toList =
        lead ++ pieces.flatMap (fun p =>
          boldRequest.tags.around (escapeText (p.1.surface "a & <fox>".toList)) ++ p.2) ∧
      (boldRequest.showField .standard foxQuery ⟨"f", .text "a & <fox>"⟩).content.toList.count
        '<' = pieces.length * 2 := by
  have hsnippet : boldRequest.snippet .standard foxQuery "f" "a & <fox>" =
      "a &amp; &lt;<b>fox</b>&gt;".toList := by
    rw [bold_snippet place_spaced rfl (by decide)]
    decide +kernel
  have hshown := bold_shown (by decide) hsnippet
  obtain ⟨lead, pieces, hsub, hcontent, -, -, hcount⟩ :=
    @snippet_tags_only_matches boldRequest .standard foxQuery ⟨"f", .text "a & <fox>"⟩
      (by decide) (by decide) (by decide) (by rw [hshown])
  exact ⟨lead, pieces, hsub, hcontent, hcount⟩

/-- A mark in the stored text becomes a tag, which no match stands behind. -/
theorem stored_mark_becomes_tag :
    (∀ tag ∈ [boldRequest.tags.before.toList, boldRequest.tags.after.toList],
      '<' ∈ tag ∧ ¬ TagPair.marks.before.toList <:+: tag ∧
        ¬ TagPair.marks.after.toList <:+: tag) ∧
    (boldRequest.showField .standard foxQuery ⟨"f", .text "fox !!!SNIPPETBEGIN"⟩).isSnippet =
      true ∧
    ¬ ∃ (lead : List Char) (pieces : List (List Char × List Char)),
      (boldRequest.showField .standard foxQuery
          ⟨"f", .text "fox !!!SNIPPETBEGIN"⟩).content.toList =
        lead ++ pieces.flatMap (fun p => boldRequest.tags.around p.1 ++ p.2) ∧
      '<' ∉ lead ∧ ∀ p ∈ pieces, '<' ∉ p.1 ∧ '<' ∉ p.2 := by
  have hsnippet : boldRequest.snippet .standard foxQuery "f" "fox !!!SNIPPETBEGIN" =
      "<b>fox</b> <b>".toList := by
    rw [bold_snippet place_mark rfl (by decide)]
    decide +kernel
  rw [bold_shown (by decide) hsnippet]
  refine ⟨by decide, rfl, ?_⟩
  rintro ⟨lead, pieces, hcontent, hlead, hpieces⟩
  have hcount := @count_frame _ boldRequest.tags lead id pieces hlead hpieces
  have hthree : ("<b>fox</b> <b>".toList).count '<' = 3 := by decide
  have hbefore : boldRequest.tags.before.toList.count '<' = 1 := by decide
  have hafter : boldRequest.tags.after.toList.count '<' = 1 := by decide
  simp only [id, ← hcontent, String.toList_ofList, hthree, hbefore, hafter] at hcount
  omega

/-- A value with a match in it is shown as a snippet with a match between the tags, if no match
stands behind an ampersand with no space between. -/
theorem snippet_shows_match (hsnippets : 1 ≤ request.snippets) (htags : request.tags.SparesMark)
    (hmatches : ∃ t ∈ analyzer.analyze field.value.display,
      ⟨field.name, t.text⟩ ∈ query.positiveTerms)
    (hfree : ∀ t ∈ query.matches analyzer field, t.StandsFree field.value.display.toList) :
    (request.showField analyzer query field).isSnippet = true ∧
      ∃ t ∈ query.matches analyzer field,
        request.tags.around (escapeText (t.surface field.value.display.toList)) <:+:
          (request.showField analyzer query field).content.toList := by
  have hany : query.matches analyzer field ≠ [] := by
    obtain ⟨t, ht, hterm⟩ := hmatches
    exact List.ne_nil_of_mem (List.mem_filter.mpr ⟨ht, by simpa using hterm⟩)
  obtain ⟨kept, hkept, hsub, -, hshown⟩ := exists_snippet_glyphs request analyzer query field
  obtain ⟨s, hs⟩ := List.exists_mem_of_ne_nil _ (hshown hsnippets hany hfree)
  obtain ⟨t, ht, rfl⟩ := List.mem_map.mp (hsub.subset hs)
  obtain ⟨g, hg, hsurface⟩ := List.mem_flatMap.mp hs
  obtain rfl := Glyph.mem_surfaces.mp hsurface
  obtain ⟨before, after, rfl⟩ := List.append_of_mem hg
  have hsnippet := insertTags_around htags (word_surface ht)
    (escapeText (before.flatMap (Glyph.chars .marks)))
    (escapeText (after.flatMap (Glyph.chars .marks)))
  rw [← escapeText_around, ← escapeText_append, ← escapeText_append] at hsnippet
  rw [List.flatMap_append, List.flatMap_cons, Glyph.chars, hsnippet] at hkept
  have hwithin : request.tags.around (escapeText (t.surface field.value.display.toList)) <:+:
      request.snippet analyzer query field.name field.value.display := by
    rw [hkept]
    exact List.infix_append' _ _ _
  have hne : request.snippet analyzer query field.name field.value.display ≠ [] := by
    intro hnil
    rw [hnil, List.infix_nil] at hwithin
    exact htags.around_ne_nil _ hwithin
  rw [showField_of_snippet_ne_nil hsnippets hne]
  exact ⟨rfl, t, ht, by simpa using hwithin⟩

theorem snippet_shows_match_fox :
    (boldRequest.showField .standard foxQuery ⟨"f", .text "a & <fox>"⟩).isSnippet = true ∧
      ∃ t ∈ foxQuery.matches .standard ⟨"f", .text "a & <fox>"⟩,
        boldRequest.tags.around (escapeText (t.surface "a & <fox>".toList)) <:+:
          (boldRequest.showField .standard foxQuery ⟨"f", .text "a & <fox>"⟩).content.toList := by
  have htokens : Analyzer.standard.analyze (StoredValue.text "a & <fox>").display =
      [⟨"a", 0, 0, 1⟩, ⟨"fox", 1, 5, 8⟩] := analyze_samples.1
  have hmatches : foxQuery.matches .standard ⟨"f", .text "a & <fox>"⟩ = [⟨"fox", 1, 5, 8⟩] := by
    rw [Query.matches, htokens]
    decide
  have hplace : (⟨"fox", 1, 5, 8⟩ : Token).place? 0 "a & <fox>".toList =
      some (⟨"a & <".toList, "fox".toList, "fox"⟩, ['>']) :=
    Token.place?_eq_some_iff.mpr (by decide)
  have hbefore : (⟨"fox", 1, 5, 8⟩ : Token).before "a & <fox>".toList = "a & <".toList := by
    simp only [Token.before, hplace]
  refine @snippet_shows_match boldRequest .standard foxQuery ⟨"f", .text "a & <fox>"⟩
    (by decide) (by decide) ?_ ?_
  · exact ⟨⟨"fox", 1, 5, 8⟩, htokens ▸ by decide, by decide⟩
  · rw [hmatches, List.forall_mem_singleton, Token.StandsFree]
    change '&' ∉ ((⟨"fox", 1, 5, 8⟩ : Token).before "a & <fox>".toList).reverse.takeWhile (· ≠ ' ')
    rw [hbefore]
    decide

/-- A match that stands right behind an ampersand is dropped with it. -/
theorem match_behind_ampersand_dropped :
    1 ≤ boldRequest.snippets ∧ boldRequest.tags.before ≠ "" ∧ boldRequest.tags.after ≠ "" ∧
      (∃ t ∈ Analyzer.standard.analyze " &fox", ⟨"f", t.text⟩ ∈ foxQuery.positiveTerms) ∧
      (boldRequest.showField .standard foxQuery ⟨"f", .text " &fox"⟩).isSnippet = false := by
  have hsnippet : boldRequest.snippet .standard foxQuery "f" " &fox" = [] := by
    rw [bold_snippet place_ampersand rfl (by decide)]
    decide +kernel
  have hdropped : boldRequest.snippet .standard foxQuery "f"
      (StoredValue.text " &fox").display = [] := hsnippet
  refine ⟨by decide, by decide, by decide, ?_, by simp [showField, hdropped]⟩
  exact ⟨⟨"fox", 0, 2, 5⟩, analyze_samples.2.2 ▸ by decide, by decide⟩

end Request

end PagedSearch
