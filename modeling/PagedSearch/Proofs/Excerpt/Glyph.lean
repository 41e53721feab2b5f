import Mathlib.Data.List.Flatten
import PagedSearch.Proofs.Excerpt.Place
import PagedSearch.Proofs.Number.Natural
import PagedSearch.Proofs.Related

/-!
# Glyphs

A highlighted text is a list of glyphs: characters as they stand, and matches, each between tags. In
this form the parts that stem from the stored text and those that stem from matches stay apart when
fragments are chosen and joined.
-/

namespace PagedSearch

inductive Glyph where
  | plain (c : Char)
  | tagged (surface : List Char)
deriving DecidableEq

namespace Glyph

def chars (tags : TagPair) : Glyph → List Char
  | plain c => [c]
  | tagged surface => tags.around surface

def bare : Glyph → List Char
  | plain c => [c]
  | tagged surface => surface

def surfaces : Glyph → List (List Char)
  | plain _ => []
  | tagged surface => [surface]

variable {tags : TagPair}

@[simp]
theorem flatMap_chars_plain (text : List Char) : (text.map plain).flatMap (chars tags) = text := by
  induction text with
  | nil => rfl
  | cons c rest ih => simp [chars, ih]

@[simp]
theorem flatMap_bare_plain (text : List Char) : (text.map plain).flatMap bare = text := by
  induction text with
  | nil => rfl
  | cons c rest ih => simp [bare, ih]

@[simp]
theorem flatMap_surfaces_plain (text : List Char) :
    (text.map plain).flatMap surfaces = [] := by
  simp [surfaces]

@[simp]
theorem mem_surfaces {s : List Char} {g : Glyph} : s ∈ g.surfaces ↔ g = tagged s := by
  cases g <;> simp [surfaces, eq_comm]

end Glyph

theorem flatMap_intercalate {α β : Type} (f : α → List β) (separator : List α)
    (parts : List (List α)) :
    (separator.intercalate parts).flatMap f =
      (separator.flatMap f).intercalate (parts.map (·.flatMap f)) := by
  induction parts with
  | nil => rfl
  | cons part others ih =>
    cases others with
    | nil => simp
    | cons next rest => simp_all

theorem nil_intercalate {α : Type} (parts : List (List α)) :
    ([] : List α).intercalate parts = parts.flatten := by
  induction parts with
  | nil => rfl
  | cons part others ih =>
    cases others with
    | nil => simp
    | cons next rest => simp_all

variable {tags : TagPair} {terms : List String}

namespace PlacedToken

def glyphs (terms : List String) (t : PlacedToken) : List Glyph :=
  t.gap.map .plain ++ if t.text ∈ terms then [.tagged t.surface] else t.surface.map .plain

private theorem flatMap_chars_glyphs (t : PlacedToken) :
    (t.glyphs terms).flatMap (Glyph.chars tags) = t.tagged tags terms := by
  by_cases hterm : t.text ∈ terms <;> simp [glyphs, tagged, hterm, Glyph.chars]

theorem flatMap_bare_glyphs (t : PlacedToken) : (t.glyphs terms).flatMap Glyph.bare = t.chars := by
  by_cases hterm : t.text ∈ terms <;> simp [glyphs, chars, hterm, Glyph.bare]

private theorem flatMap_surfaces_glyphs (t : PlacedToken) :
    (t.glyphs terms).flatMap Glyph.surfaces = if t.text ∈ terms then [t.surface] else [] := by
  by_cases hterm : t.text ∈ terms <;> simp [glyphs, hterm, Glyph.surfaces]

end PlacedToken

def glyphsOf (terms : List String) (placed : List PlacedToken × List Char) : List Glyph :=
  placed.1.flatMap (·.glyphs terms) ++ placed.2.map .plain

theorem surfaces_glyphsOf (terms : List String) (placed : List PlacedToken × List Char) :
    (glyphsOf terms placed).flatMap Glyph.surfaces =
      (placed.1.filter (·.text ∈ terms)).map PlacedToken.surface := by
  obtain ⟨tokens, tail⟩ := placed
  simp only [glyphsOf, List.flatMap_append, Glyph.flatMap_surfaces_plain, List.append_nil]
  induction tokens with
  | nil => rfl
  | cons t rest ih =>
    by_cases hterm : t.text ∈ terms <;>
      simp [PlacedToken.flatMap_surfaces_glyphs, hterm, ih]

theorem flatMap_bare_glyphsOf (terms : List String) (placed : List PlacedToken × List Char) :
    (glyphsOf terms placed).flatMap Glyph.bare =
      placed.1.flatMap PlacedToken.chars ++ placed.2 := by
  simp [glyphsOf, List.flatMap_assoc, PlacedToken.flatMap_bare_glyphs]

private theorem termsAmong_pos_iff (terms : List String) (tokens : List PlacedToken) :
    0 < (termsAmong terms tokens).length ↔
      (tokens.flatMap (·.glyphs terms)).flatMap Glyph.surfaces ≠ [] := by
  have hsurfaces := surfaces_glyphsOf terms (tokens, [])
  simp only [glyphsOf, List.map_nil, List.append_nil] at hsurfaces
  rw [hsurfaces, termsAmong, List.length_pos_iff]
  have hdistinct (l : List String) : l.eraseDups = [] ↔ l = [] := by
    cases l <;> simp [List.eraseDups_cons]
  simp [hdistinct]

def fragmentGlyphs (terms : List String) (tail : List Char) :
    List (List PlacedToken) → List (List Glyph)
  | [] => []
  | tokens :: rest =>
    glyphsOf terms (tokens, if rest.isEmpty then tail else []) :: fragmentGlyphs terms tail rest

/-- A fragment is written from its glyphs and has a score above zero if there is a match in it. -/
def Fragment.Shows (tags : TagPair) (f : Fragment) (gs : List Glyph) : Prop :=
  f.text = gs.flatMap (Glyph.chars tags) ∧
    (f.score.isPositive = true ↔ gs.flatMap Glyph.surfaces ≠ [])

theorem fragmentsFrom_glyphs (tags : TagPair) (terms : List String) (tail : List Char)
    (offset : Nat) (parts : List (List PlacedToken)) :
    List.Forall₂ (Fragment.Shows tags) (fragmentsFrom tags terms tail offset parts)
      (fragmentGlyphs terms tail parts) := by
  induction parts generalizing offset with
  | nil => exact .nil
  | cons tokens rest ih =>
    refine .cons ⟨?_, ?_⟩ (ih _)
    · simp [glyphsOf, List.flatMap_assoc, PlacedToken.flatMap_chars_glyphs]
    · rw [Binary.isPositive_ofNat BinaryFormat.isProper_single, termsAmong_pos_iff]
      simp [glyphsOf]

theorem flatten_fragmentGlyphs (terms : List String) (tail : List Char)
    (parts : List (List PlacedToken)) :
    (fragmentGlyphs terms tail parts).flatten =
      glyphsOf terms (parts.flatten, if parts.isEmpty then [] else tail) := by
  induction parts with
  | nil => rfl
  | cons tokens rest ih =>
    rw [fragmentGlyphs, List.flatten_cons, ih]
    cases rest <;> simp [glyphsOf]

theorem flatten_cutTokens (size : Nat) (current tokens : List PlacedToken) :
    (cutTokens size current tokens).flatten = current ++ tokens := by
  induction tokens generalizing current with
  | nil => cases current <;> simp [cutTokens]
  | cons t rest ih =>
    unfold cutTokens
    split
    · rw [List.flatten_cons, ih, List.singleton_append]
    · rw [ih, List.append_assoc, List.singleton_append]

section

variable {analyzer : Analyzer} {value : String} {query : Query} {field : String}

private theorem fragments_glyphs (tags : TagPair) (size : Nat) (analyzer : Analyzer)
    (value : String) (terms : List String) :
    ∃ parts : List (List Glyph),
      List.Forall₂ (Fragment.Shows tags)
        (fragments tags size (analyzer.analyze value) value terms) parts ∧
      (∀ gs ∈ parts, gs <:+: glyphsOf terms (analyzer.place value)) ∧
      parts.flatten.flatMap Glyph.surfaces =
        (glyphsOf terms (analyzer.place value)).flatMap Glyph.surfaces := by
  set placed := analyzer.place value with hplaced
  set cut := cutTokens size [] placed.1 with hcut
  have hflatten : cut.flatten = placed.1 := flatten_cutTokens size [] placed.1
  refine ⟨fragmentGlyphs terms placed.2 cut, ?_, ?_, ?_⟩
  · exact fragmentsFrom_glyphs tags terms placed.2 0 cut
  · intro gs hgs
    have hwithin := List.infix_of_mem_flatten hgs
    rw [flatten_fragmentGlyphs, hflatten] at hwithin
    refine hwithin.trans ?_
    cases hempty : cut.isEmpty
    · exact List.infix_refl _
    · simp only [if_true, glyphsOf, List.map_nil, List.append_nil]
      exact List.infix_append_left
  · rw [flatten_fragmentGlyphs, hflatten, surfaces_glyphsOf, surfaces_glyphsOf]

private theorem topFragments_subperm (tags : TagPair) (size : Nat) (tokens : List Token)
    (text : String) (query : Query) (field : String) (count : Nat) :
    (topFragments tags size tokens text query field count).Subperm
      ((fragments tags size tokens text (query.termsFor field)).filter (·.score.isPositive)) :=
  (List.take_sublist _ _).subperm.trans (List.mergeSort_perm _ _).subperm

private theorem topFragments_ne_nil {tags : TagPair} {size count : Nat} {tokens : List Token}
    {text : String} {f : Fragment} (hcount : 0 < count)
    (hf : f ∈ fragments tags size tokens text (query.termsFor field))
    (hscore : f.score.isPositive = true) :
    topFragments tags size tokens text query field count ≠ [] := by
  have hmem : f ∈ (fragments tags size tokens text (query.termsFor field)).filter
      (·.score.isPositive) := List.mem_filter.mpr ⟨hf, hscore⟩
  have hlength := List.length_pos_of_mem hmem
  rw [← List.length_pos_iff, topFragments, List.length_take, List.length_mergeSort]
  omega

/-- The highlight shows the glyphs of some fragments of the value, no match more often than the
value has it. If the value has a match and fragments are asked for, it shows one. -/
theorem highlight_glyphs (tags : TagPair) (size count : Nat) (analyzer : Analyzer) (value : String)
    (query : Query) (field : String) (separator : List Char) :
    ∃ chosen : List (List Glyph),
      highlight tags size (analyzer.analyze value) value query field count separator =
        ((separator.map Glyph.plain).intercalate chosen).flatMap (Glyph.chars tags) ∧
      (∀ gs ∈ chosen, gs <:+: glyphsOf (query.termsFor field) (analyzer.place value)) ∧
      (chosen.flatten.flatMap Glyph.surfaces).Subperm
        ((glyphsOf (query.termsFor field) (analyzer.place value)).flatMap Glyph.surfaces) ∧
      (0 < count →
        (glyphsOf (query.termsFor field) (analyzer.place value)).flatMap Glyph.surfaces ≠ [] →
          chosen.flatten.flatMap Glyph.surfaces ≠ []) := by
  obtain ⟨parts, hparts, hwithin, hsurfaces⟩ :=
    fragments_glyphs tags size analyzer value (query.termsFor field)
  have htop := topFragments_subperm tags size (analyzer.analyze value) value query field count
  have hall := htop.trans (List.filter_sublist).subperm
  obtain ⟨chosen, hchosen, hrel⟩ := exists_subperm_of_forall₂ hall hparts
  refine ⟨chosen, ?_, fun gs hgs => hwithin gs (hchosen.subset hgs), ?_, ?_⟩
  · have htexts : (topFragments tags size (analyzer.analyze value) value query field count).map
        Fragment.text = chosen.map (·.flatMap (Glyph.chars tags)) := by
      rw [← List.forall₂_eq_eq_eq, List.forall₂_map_left_iff, List.forall₂_map_right_iff]
      exact hrel.imp fun f gs h => h.1
    rw [highlight, htexts, flatMap_intercalate, Glyph.flatMap_chars_plain]
  · rw [← hsurfaces]
    obtain ⟨sub, hperm, hsub⟩ := hchosen
    exact ⟨_, (hperm.flatten.flatMap_right _), (hsub.flatten.flatMap _)⟩
  · intro hcount hmatch
    obtain ⟨gs, hgs, hshown⟩ : ∃ gs ∈ parts, gs.flatMap Glyph.surfaces ≠ [] := by
      by_contra hnone
      push Not at hnone
      apply hmatch
      rw [← hsurfaces, List.flatten_eq_flatMap, List.flatMap_assoc, List.flatMap_eq_nil_iff]
      exact hnone
    obtain ⟨f, hf, hshows⟩ := exists_mem_of_forall₂ hparts hgs
    have htopped := topFragments_ne_nil hcount hf (hshows.2.mpr hshown)
    obtain ⟨best, others, hbest⟩ := List.exists_cons_of_ne_nil htopped
    have hscored : best.score.isPositive = true := by
      have hmem := htop.subset (hbest ▸ List.mem_cons_self)
      exact (List.mem_filter.mp hmem).2
    rw [hbest] at hrel
    obtain ⟨hs, more, hshows, -, rfl⟩ := List.forall₂_cons_left_iff.mp hrel
    have hfirst := hshows.2.mp hscored
    rw [List.flatten_cons, List.flatMap_append]
    exact List.append_ne_nil_of_left_ne_nil hfirst _

end

end PagedSearch
