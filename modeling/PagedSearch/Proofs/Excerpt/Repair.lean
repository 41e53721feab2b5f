import PagedSearch.Excerpt.Cut
import PagedSearch.Proofs.Excerpt.Glyph
import PagedSearch.Proofs.Excerpt.Replacement
import PagedSearch.Proofs.Text.Split

/-!
# Dropping cut references

A repaired highlight shows a prefix of each of its segments. What is dropped begins at an ampersand
behind a space, so a match is lost only if it stands behind an ampersand with no space between.
-/

namespace PagedSearch

section Segment

variable {segment word : List Char}

theorem repairSegment_of_not_mem (h : ' ' ∉ segment) : repairSegment segment = segment := by
  have hrest := @dropWhile_ne_of_not_mem _ _ ' ' segment.reverse (by simpa using h)
  rw [repairSegment, repairReversed]
  split
  · exact List.reverse_reverse segment
  · rename_i hopen
    rw [hrest] at hopen
    cases hopen

theorem repairSegment_append (hword : ' ' ∉ word) (front : List Char) :
    repairSegment (front ++ ' ' :: word) =
      if word.head? = some '&' ∧ word.getLast? ≠ some ';' then repairSegment front
      else front ++ ' ' :: word := by
  have hmem : ' ' ∉ word.reverse := by simpa using hword
  have hreverse : (front ++ ' ' :: word).reverse = word.reverse ++ ' ' :: front.reverse := by simp
  have hcut : isCutReference word.reverse = true ↔
      word.head? = some '&' ∧ word.getLast? ≠ some ';' := by simp [isCutReference]
  rw [repairSegment, hreverse, repairReversed]
  split
  · rename_i hrest
    rw [dropWhile_ne_append hmem] at hrest
    cases hrest
  · rename_i hrest
    rw [dropWhile_ne_append hmem] at hrest
    obtain ⟨-, rfl⟩ := List.cons.inj hrest
    rw [takeWhile_ne_append hmem]
    by_cases h : isCutReference word.reverse = true
    · rw [if_pos h, if_pos (hcut.mp h), repairSegment]
    · rw [if_neg h, if_neg (mt hcut.mpr h)]
      simp

theorem repairSegment_words (segment : List Char) :
    ∃ words : List (List Char), (∀ w ∈ words, ' ' ∉ w) ∧
      segment = repairSegment segment ++ words.flatMap (fun w => ' ' :: '&' :: w) := by
  induction hlength : segment.length using Nat.strong_induction_on generalizing segment with
  | _ n ih =>
    by_cases hspace : ' ' ∈ segment
    · obtain ⟨front, word, rfl, hword⟩ := exists_last_of_mem hspace
      rw [repairSegment_append hword]
      by_cases hcut : word.head? = some '&' ∧ word.getLast? ≠ some ';'
      · have hshorter : front.length < n := by
          rw [← hlength, List.length_append, List.length_cons]
          omega
        obtain ⟨words, hspaces, hfront⟩ := ih front.length hshorter front rfl
        obtain ⟨tail, rfl⟩ := List.head?_eq_some_iff.mp hcut.1
        refine ⟨words ++ [tail], ?_, ?_⟩
        · intro w hw
          rcases List.mem_append.mp hw with hw | hw
          · exact hspaces w hw
          · obtain rfl := List.mem_singleton.mp hw
            exact fun h => hword (List.mem_cons_of_mem _ h)
        · rw [if_pos hcut, List.flatMap_append, ← List.append_assoc, ← hfront]
          simp
      · exact ⟨[], nofun, by simp [hcut]⟩
    · exact ⟨[], nofun, by simp [repairSegment_of_not_mem hspace]⟩

end Segment

def ShowsWords (gs : List Glyph) : Prop :=
  ∀ s ∈ gs.flatMap Glyph.surfaces, ∀ c ∈ s, Unicode.isWordChar c = true

/-- A match stands behind an ampersand with no space between. -/
def ShowsStranded (gs : List Glyph) : Prop :=
  ∃ run surface, Glyph.plain ' ' ∉ run ∧ .plain '&' :: (run ++ [.tagged surface]) <:+: gs

section Written

variable {gs : List Glyph} {u v : List Char}

private theorem ShowsWords.of_part {hs : List Glyph} (hwords : ShowsWords gs)
    (hwithin : hs <:+: gs) :
    ShowsWords hs := by
  intro s hs'
  exact hwords s ((hwithin.sublist.flatMap _).subset hs')

theorem ShowsStranded.of_part {hs : List Glyph} (h : ShowsStranded hs) (hwithin : hs <:+: gs) :
    ShowsStranded gs := by
  obtain ⟨run, surface, hrun, hrunWithin⟩ := h
  exact ⟨run, surface, hrun, hrunWithin.trans hwithin⟩

private theorem space_not_mem_around {s : List Char}
    (hs : ∀ c ∈ s, Unicode.isWordChar c = true) : ' ' ∉ TagPair.marks.around s := by
  have hword : Unicode.isWordChar ' ' = false := by decide
  have hspace : ' ' ∉ s := fun h => by simpa [hword] using hs ' ' h
  have hbefore : ' ' ∉ TagPair.marks.before.toList := by decide
  have hafter : ' ' ∉ TagPair.marks.after.toList := by decide
  simp only [TagPair.around, List.mem_append, not_or]
  exact ⟨⟨hbefore, hspace⟩, hafter⟩

private theorem exists_glyphs_around_space (hwords : ShowsWords gs)
    (hwritten : gs.flatMap (Glyph.chars .marks) = u ++ ' ' :: v) :
    ∃ before after, gs = before ++ .plain ' ' :: after ∧
      before.flatMap (Glyph.chars .marks) = u ∧ after.flatMap (Glyph.chars .marks) = v := by
  induction gs generalizing u with
  | nil => simp at hwritten
  | cons g rest ih =>
    have hrest : ShowsWords rest := hwords.of_part (List.suffix_cons g rest).isInfix
    cases g with
    | plain c =>
      cases u with
      | nil =>
        obtain ⟨rfl, hv⟩ := List.cons.inj hwritten
        exact ⟨[], rest, rfl, rfl, hv⟩
      | cons d u =>
        obtain ⟨rfl, htail⟩ := List.cons.inj hwritten
        obtain ⟨before, after, rfl, rfl, rfl⟩ := ih hrest htail
        exact ⟨.plain c :: before, after, rfl, by simp [Glyph.chars], rfl⟩
    | tagged s =>
      have hs := space_not_mem_around (hwords s (by simp [Glyph.surfaces]))
      rw [List.flatMap_cons, Glyph.chars] at hwritten
      rcases append_eq_append_cons hwritten with ⟨w, rfl, htail⟩ | ⟨w, haround⟩
      · obtain ⟨before, after, rfl, rfl, rfl⟩ := ih hrest htail
        exact ⟨.tagged s :: before, after, rfl, by simp [Glyph.chars], rfl⟩
      · exact absurd (haround ▸ by simp) hs

private theorem around_marks (s : List Char) :
    TagPair.marks.around s = '!' :: ("!!SNIPPETBEGIN".toList ++ s ++ TagPair.marks.after.toList) :=
  rfl

private theorem head_of_written {c : Char} (hc : c ≠ '!')
    (hwritten : gs.flatMap (Glyph.chars .marks) = c :: v) :
    ∃ rest, gs = .plain c :: rest ∧ rest.flatMap (Glyph.chars .marks) = v := by
  cases gs with
  | nil => simp at hwritten
  | cons g rest =>
    cases g with
    | plain d =>
      obtain ⟨rfl, hv⟩ := List.cons.inj hwritten
      exact ⟨rest, rfl, hv⟩
    | tagged s =>
      rw [List.flatMap_cons, Glyph.chars, around_marks] at hwritten
      exact absurd (List.cons.inj hwritten).1.symm hc

private theorem plain_of_written (hv : '!' ∉ v) (hwritten : gs.flatMap (Glyph.chars .marks) = v) :
    gs = v.map .plain := by
  induction v generalizing gs with
  | nil =>
    cases gs with
    | nil => rfl
    | cons g rest => cases g <;> simp [Glyph.chars, around_marks] at hwritten
  | cons c rest ih =>
    simp only [List.mem_cons, not_or] at hv
    obtain ⟨others, rfl, hothers⟩ := head_of_written (Ne.symm hv.1) hwritten
    rw [ih hv.2 hothers, List.map_cons]

private theorem exists_glyphs_of_segments {parts : List (List Char)} (hwords : ShowsWords gs)
    (hparts : parts ≠ [])
    (hwritten : gs.flatMap (Glyph.chars .marks) = ellipsis.intercalate parts) :
    ∃ pieces, gs = (ellipsis.map Glyph.plain).intercalate pieces ∧
      pieces.map (·.flatMap (Glyph.chars .marks)) = parts := by
  induction parts generalizing gs with
  | nil => exact absurd rfl hparts
  | cons part others ih =>
    cases others with
    | nil => exact ⟨[gs], by simp, by simpa using hwritten⟩
    | cons next rest =>
      have hopen : gs.flatMap (Glyph.chars .marks) =
          part ++ ' ' :: (['.', '.', '.'] ++ ' ' :: ellipsis.intercalate (next :: rest)) := by
        rw [hwritten, List.intercalate_cons_cons]
        simp [ellipsis]
      obtain ⟨before, after, rfl, hbefore, hafter⟩ := exists_glyphs_around_space hwords hopen
      have hbehind : ShowsWords after :=
        hwords.of_part ⟨before ++ [.plain ' '], [], by simp⟩
      obtain ⟨dots, last, rfl, hdots, hlast⟩ := exists_glyphs_around_space hbehind hafter
      have hlastWords : ShowsWords last := hbehind.of_part ⟨dots ++ [.plain ' '], [], by simp⟩
      obtain ⟨pieces, rfl, hpieces⟩ := ih hlastWords (by simp) hlast
      obtain rfl := plain_of_written (by simp) hdots
      refine ⟨before :: pieces, ?_, by rw [List.map_cons, hbefore, hpieces]⟩
      cases pieces with
      | nil => simp at hpieces
      | cons piece more =>
        rw [List.intercalate_cons_cons]
        simp [ellipsis]

private theorem exists_glyphs_of_words {kept : List Char} {words : List (List Char)}
    (hwords : ShowsWords gs) (hspaces : ∀ w ∈ words, ' ' ∉ w)
    (hwritten : gs.flatMap (Glyph.chars .marks) =
      kept ++ words.flatMap (fun w => ' ' :: '&' :: w)) :
    ∃ (before : List Glyph) (runs : List (List Glyph)),
      gs = before ++ runs.flatMap (fun r => .plain ' ' :: .plain '&' :: r) ∧
      before.flatMap (Glyph.chars .marks) = kept ∧ ∀ r ∈ runs, Glyph.plain ' ' ∉ r := by
  induction words generalizing gs kept with
  | nil => exact ⟨gs, [], by simp, by simpa using hwritten, by simp⟩
  | cons word others ih =>
    rw [List.flatMap_cons, List.cons_append] at hwritten
    obtain ⟨before, after, rfl, hbefore, hafter⟩ := exists_glyphs_around_space hwords hwritten
    obtain ⟨rest, rfl, hrest⟩ := head_of_written (by decide) hafter
    have hbehind : ShowsWords rest :=
      hwords.of_part ⟨before ++ [.plain ' ', .plain '&'], [], by simp⟩
    obtain ⟨run, runs, rfl, hrun, hruns⟩ :=
      ih hbehind (fun w hw => hspaces w (List.mem_cons_of_mem word hw)) hrest
    refine ⟨before, run :: runs, by simp, hbefore, ?_⟩
    intro r hr
    rcases List.mem_cons.mp hr with rfl | hr
    · intro hspace
      refine hspaces word List.mem_cons_self ?_
      rw [← hrun]
      exact List.mem_flatMap.mpr ⟨_, hspace, List.mem_singleton.mpr rfl⟩
    · exact hruns r hr

/-- A repaired segment shows the first glyphs of the segment, and all its matches unless one of
them is stranded. -/
def Keeps (gs kept : List Glyph) : Prop :=
  kept <+: gs ∧ (¬ ShowsStranded gs → kept.flatMap Glyph.surfaces = gs.flatMap Glyph.surfaces)

private theorem exists_repaired_segment (hwords : ShowsWords gs) :
    ∃ kept, repairSegment (gs.flatMap (Glyph.chars .marks)) =
      kept.flatMap (Glyph.chars .marks) ∧ Keeps gs kept := by
  obtain ⟨words, hspaces, hsegment⟩ := repairSegment_words (gs.flatMap (Glyph.chars .marks))
  obtain ⟨kept, runs, hgs, hkept, hruns⟩ := exists_glyphs_of_words hwords hspaces hsegment
  refine ⟨kept, hkept.symm, ⟨_, hgs.symm⟩, ?_⟩
  intro hstranded
  have hnone : ∀ r ∈ runs, r.flatMap Glyph.surfaces = [] := by
    intro r hr
    by_contra hshown
    obtain ⟨s, hs⟩ := List.exists_mem_of_ne_nil _ hshown
    obtain ⟨g, hg, hsg⟩ := List.mem_flatMap.mp hs
    obtain rfl := Glyph.mem_surfaces.mp hsg
    obtain ⟨run, others, rfl⟩ := List.append_of_mem hg
    have hrun : Glyph.plain ' ' ∉ run := fun h => hruns _ hr (List.mem_append_left _ h)
    refine hstranded ⟨run, s, hrun, ?_⟩
    have hmem := List.mem_map_of_mem (f := fun r => Glyph.plain ' ' :: .plain '&' :: r) hr
    have hwhole := List.infix_of_mem_flatten hmem
    rw [← List.flatMap_def] at hwhole
    rw [hgs]
    refine List.IsInfix.trans ?_ (hwhole.trans List.infix_append_right)
    exact ⟨[.plain ' '], others, by simp⟩
  have hdropped :
      (runs.flatMap fun r => Glyph.plain ' ' :: .plain '&' :: r).flatMap Glyph.surfaces = [] := by
    rw [List.flatMap_assoc, List.flatMap_eq_nil_iff]
    intro r hr
    simpa [Glyph.surfaces] using hnone r hr
  rw [hgs, List.flatMap_append, hdropped, List.append_nil]

private theorem surfaces_sublist_of_keeps {pieces kept : List (List Glyph)}
    (hkeeps : List.Forall₂ Keeps pieces kept) :
    (kept.flatten.flatMap Glyph.surfaces).Sublist (pieces.flatten.flatMap Glyph.surfaces) := by
  induction hkeeps with
  | nil => simp
  | cons hfirst _ ih =>
    rw [List.flatten_cons, List.flatten_cons, List.flatMap_append, List.flatMap_append]
    exact (hfirst.1.sublist.flatMap _).append ih

private theorem surfaces_eq_of_keeps {pieces kept : List (List Glyph)}
    (hkeeps : List.Forall₂ Keeps pieces kept) (hnone : ∀ piece ∈ pieces, ¬ ShowsStranded piece) :
    kept.flatten.flatMap Glyph.surfaces = pieces.flatten.flatMap Glyph.surfaces := by
  induction hkeeps with
  | nil => rfl
  | cons hfirst _ ih =>
    obtain ⟨hpiece, hothers⟩ := List.forall_mem_cons.mp hnone
    simp only [List.flatten_cons, List.flatMap_append, hfirst.2 hpiece, ih hothers]

private theorem exists_repaired_segments {pieces : List (List Glyph)}
    (hwords : ∀ piece ∈ pieces, ShowsWords piece) :
    ∃ kept, (pieces.map (·.flatMap (Glyph.chars .marks))).map repairSegment =
      kept.map (·.flatMap (Glyph.chars .marks)) ∧ List.Forall₂ Keeps pieces kept := by
  induction pieces with
  | nil => exact ⟨[], rfl, .nil⟩
  | cons piece others ih =>
    obtain ⟨hpiece, hothers⟩ := List.forall_mem_cons.mp hwords
    obtain ⟨first, hfirst, hkeeps⟩ := exists_repaired_segment hpiece
    obtain ⟨rest, hrest, hall⟩ := ih hothers
    exact ⟨first :: rest, by simp only [List.map_cons, hfirst, hrest], .cons hkeeps hall⟩

end Written

section Joined

variable {parts kept : List (List Glyph)}

theorem surfaces_join (parts : List (List Glyph)) :
    ((ellipsis.map Glyph.plain).intercalate parts).flatMap Glyph.surfaces =
      parts.flatten.flatMap Glyph.surfaces := by
  rw [flatMap_intercalate, Glyph.flatMap_surfaces_plain, nil_intercalate]
  induction parts with
  | nil => rfl
  | cons part others ih => simp [ih]

private theorem infix_append_cons {α : Type} {p xs ys : List α} {a : α} (ha : a ∉ p)
    (h : p <:+: xs ++ a :: ys) : p <:+: xs ∨ p <:+: ys := by
  rcases List.infix_append_iff.mp h with h | h | ⟨left, right, rfl, hleft, hright⟩
  · exact .inl h
  · rcases List.infix_cons_iff.mp h with h | h
    · cases p with
      | nil => exact .inl List.nil_infix
      | cons b q =>
        obtain ⟨rfl, -⟩ := List.cons_prefix_cons.mp h
        simp at ha
    · exact .inr h
  · cases right with
    | nil => exact .inl (by simpa using hleft.isInfix)
    | cons b q =>
      obtain ⟨rfl, -⟩ := List.cons_prefix_cons.mp hright
      simp at ha

private theorem infix_join {part : List Glyph} (hpart : part ∈ parts) :
    part <:+: (ellipsis.map Glyph.plain).intercalate parts := by
  induction parts with
  | nil => simp at hpart
  | cons first others ih =>
    cases others with
    | nil => simp_all
    | cons next rest =>
      rw [List.intercalate_cons_cons]
      rcases List.mem_cons.mp hpart with rfl | hother
      · rw [List.append_assoc]
        exact (List.prefix_append _ _).isInfix
      · exact (ih hother).trans List.infix_append_right

theorem infix_of_infix_join {p : List Glyph} (hp : .plain ' ' ∉ p)
    (h : p <:+: (ellipsis.map Glyph.plain).intercalate parts) :
    p <:+: ['.', '.', '.'].map .plain ∨ ∃ part ∈ parts, p <:+: part := by
  induction parts with
  | nil => exact .inl (by simp_all)
  | cons part others ih =>
    cases others with
    | nil => exact .inr ⟨part, by simp, by simpa using h⟩
    | cons next rest =>
      rw [List.intercalate_cons_cons] at h
      have hopen : p <:+: part ++ .plain ' ' :: (['.', '.', '.'].map .plain ++
          .plain ' ' :: (ellipsis.map Glyph.plain).intercalate (next :: rest)) := by
        simpa [ellipsis] using h
      rcases infix_append_cons hp hopen with hpart | hbehind
      · exact .inr ⟨part, by simp, hpart⟩
      · rcases infix_append_cons hp hbehind with hdots | hlast
        · exact .inl hdots
        · rcases ih hlast with hdots | ⟨other, hother, hwithin⟩
          · exact .inl hdots
          · exact .inr ⟨other, List.mem_cons_of_mem part hother, hwithin⟩

theorem showsStranded_join (h : ShowsStranded ((ellipsis.map Glyph.plain).intercalate parts)) :
    ∃ part ∈ parts, ShowsStranded part := by
  obtain ⟨run, s, hrun, hwithin⟩ := h
  have hspace : Glyph.plain ' ' ∉ .plain '&' :: (run ++ [.tagged s]) := by simp [hrun]
  rcases infix_of_infix_join hspace hwithin with hdots | ⟨part, hpart, hwithin⟩
  · have hmem : Glyph.tagged s ∈ ['.', '.', '.'].map Glyph.plain := hdots.subset (by simp)
    simp at hmem
  · exact ⟨part, hpart, run, s, hrun, hwithin⟩

end Joined

/-- A repaired text shows matches of the text, all of them unless one is stranded, and nothing new
between two spaces. -/
theorem repairText_glyphs {gs : List Glyph} (hwords : ShowsWords gs) :
    ∃ kept, repairText ellipsis (gs.flatMap (Glyph.chars .marks)) =
        kept.flatMap (Glyph.chars .marks) ∧
      (kept.flatMap Glyph.surfaces).Sublist (gs.flatMap Glyph.surfaces) ∧
      (¬ ShowsStranded gs → kept.flatMap Glyph.surfaces = gs.flatMap Glyph.surfaces) ∧
      ∀ p, Glyph.plain ' ' ∉ p → p <:+: kept → p <:+: ['.', '.', '.'].map .plain ∨ p <:+: gs := by
  have hellipsis : ellipsis ≠ [] := by simp [ellipsis]
  have hjoined := intercalate_segments hellipsis (gs.flatMap (Glyph.chars .marks))
  have hparts := segments_ne_nil ellipsis (gs.flatMap (Glyph.chars .marks))
  obtain ⟨pieces, hgs, hpieces⟩ := exists_glyphs_of_segments hwords hparts hjoined.symm
  have hwithin : ∀ piece ∈ pieces, piece <:+: gs := fun piece hpiece => hgs ▸ infix_join hpiece
  obtain ⟨kept, hrepaired, hkeeps⟩ :=
    exists_repaired_segments fun piece hpiece => hwords.of_part (hwithin piece hpiece)
  refine ⟨(ellipsis.map Glyph.plain).intercalate kept, ?_, ?_, ?_, ?_⟩
  · rw [repairText, ← hpieces, hrepaired, flatMap_intercalate, Glyph.flatMap_chars_plain]
  · rw [hgs, surfaces_join, surfaces_join]
    exact surfaces_sublist_of_keeps hkeeps
  · intro hstranded
    have hnone : ∀ piece ∈ pieces, ¬ ShowsStranded piece :=
      fun piece hpiece h => hstranded (h.of_part (hwithin piece hpiece))
    rw [hgs, surfaces_join, surfaces_join]
    exact surfaces_eq_of_keeps hkeeps hnone
  · intro p hp hkept
    rcases infix_of_infix_join hp hkept with hdots | ⟨part, hpart, hpWithin⟩
    · exact .inl hdots
    · obtain ⟨piece, hpiece, hkeep⟩ := exists_mem_of_forall₂ hkeeps hpart
      exact .inr (hpWithin.trans (hkeep.1.isInfix.trans (hwithin piece hpiece)))

section Stored

variable {analyzer : Analyzer} {value : String} {terms : List String}

theorem showsWords_glyphsOf (analyzer : Analyzer) (value : String) (terms : List String) :
    ShowsWords (glyphsOf terms (analyzer.place value)) := by
  intro s hs
  rw [surfaces_glyphsOf] at hs
  obtain ⟨p, hp, rfl⟩ := List.mem_map.mp hs
  exact (analyzer.place_words value).2 p (List.mem_filter.mp hp).1

private theorem gap_of_tagged {p : PlacedToken} {s : List Char} {front w : List Glyph}
    (hglyphs : p.glyphs terms = front ++ .tagged s :: w) :
    p.text ∈ terms ∧ front = p.gap.map .plain := by
  have hplain (text : List Char) : Glyph.tagged s ∉ text.map Glyph.plain := by simp
  by_cases hterm : p.text ∈ terms
  · refine ⟨hterm, ?_⟩
    rw [PlacedToken.glyphs, if_pos hterm] at hglyphs
    rcases append_eq_append_cons hglyphs with ⟨v, rfl, hlast⟩ | ⟨v, hgap⟩
    · cases v with
      | nil => simp
      | cons g v => simp at hlast
    · exact absurd (hgap ▸ by simp) (hplain p.gap)
  · rw [PlacedToken.glyphs, if_neg hterm, ← List.map_append] at hglyphs
    exact absurd (hglyphs ▸ by simp) (hplain (p.gap ++ p.surface))

private theorem exists_placed_of_tagged {tokens : List PlacedToken} {tail s : List Char}
    {front back : List Glyph} (hglyphs : glyphsOf terms (tokens, tail) = front ++ .tagged s :: back) :
    ∃ first p second, tokens = first ++ p :: second ∧ p.text ∈ terms ∧
      front = first.flatMap (·.glyphs terms) ++ p.gap.map .plain := by
  induction tokens generalizing front with
  | nil =>
    have hmem : Glyph.tagged s ∈ glyphsOf terms ([], tail) := by simp [hglyphs]
    simp [glyphsOf] at hmem
  | cons p rest ih =>
    have hcons : p.glyphs terms ++ glyphsOf terms (rest, tail) = front ++ .tagged s :: back := by
      simpa [glyphsOf] using hglyphs
    rcases append_eq_append_cons hcons with ⟨w, rfl, hrest⟩ | ⟨w, hp⟩
    · obtain ⟨first, q, second, rfl, hq, rfl⟩ := ih hrest
      exact ⟨p :: first, q, second, rfl, hq, by simp⟩
    · obtain ⟨hterm, hfront⟩ := gap_of_tagged hp
      exact ⟨[], p, rest, rfl, hterm, by simpa using hfront⟩

/-- No ampersand stands before a token without a space between them. -/
def Token.StandsFree (text : List Char) (t : Token) : Prop :=
  '&' ∉ (t.before text).reverse.takeWhile (· ≠ ' ')

instance (text : List Char) (t : Token) : Decidable (t.StandsFree text) :=
  inferInstanceAs (Decidable ('&' ∉ (t.before text).reverse.takeWhile (· ≠ ' ')))

private theorem mem_takeWhile_of_no_space {u v : List Char} (hv : ' ' ∉ v) :
    '&' ∈ (u ++ '&' :: v).reverse.takeWhile (· ≠ ' ') := by
  have hinside : ∀ c ∈ v.reverse, decide (c ≠ ' ') = true := by
    intro c hc
    have hne : c ≠ ' ' := by
      rintro rfl
      exact hv (List.mem_reverse.mp hc)
    simpa using hne
  rw [List.reverse_append, List.reverse_cons, List.append_assoc,
    List.takeWhile_append_of_pos hinside]
  simp

theorem not_showsStranded_of_standsFree
    (hfree : ∀ t ∈ analyzer.analyze value, t.text ∈ terms → t.StandsFree value.toList) :
    ¬ ShowsStranded (glyphsOf terms (analyzer.place value)) := by
  rintro ⟨run, s, hrun, front, back, hglyphs⟩
  have hopen : glyphsOf terms ((analyzer.place value).1, (analyzer.place value).2) =
      (front ++ .plain '&' :: run) ++ .tagged s :: back := by simp [← hglyphs]
  obtain ⟨first, p, second, htokens, hterm, hfront⟩ := exists_placed_of_tagged hopen
  obtain ⟨t, ht, htext, hbefore⟩ := @exists_token_of_placed [] _ _ _ _ _ htokens
  have hbare := congrArg (List.flatMap Glyph.bare) hfront
  have hchars : first.flatMap PlacedToken.chars ++ p.gap =
      front.flatMap Glyph.bare ++ '&' :: run.flatMap Glyph.bare := by
    simpa [List.flatMap_assoc, PlacedToken.flatMap_bare_glyphs, Glyph.bare] using hbare.symm
  have hspace : ' ' ∉ run.flatMap Glyph.bare := by
    intro h
    obtain ⟨g, hg, hc⟩ := List.mem_flatMap.mp h
    cases g with
    | plain c =>
      obtain rfl := List.mem_singleton.mp hc
      exact hrun hg
    | tagged surface =>
      have hwords : ShowsWords run := (showsWords_glyphsOf analyzer value terms).of_part
        ⟨front ++ [.plain '&'], .tagged s :: back, by simp [← hglyphs]⟩
      have hshown : surface ∈ run.flatMap Glyph.surfaces :=
        List.mem_flatMap.mpr ⟨_, hg, by simp [Glyph.surfaces]⟩
      exact absurd (hwords surface hshown ' ' hc) (by decide)
  refine hfree t ht (htext ▸ hterm) ?_
  rw [List.nil_append, List.nil_append, hchars] at hbefore
  rw [hbefore]
  exact mem_takeWhile_of_no_space hspace

end Stored

end PagedSearch
