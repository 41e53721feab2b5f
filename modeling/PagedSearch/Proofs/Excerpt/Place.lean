import Mathlib.Data.List.Forall2
import Mathlib.Data.List.TakeWhile
import PagedSearch.Text.Analysis
import PagedSearch.Excerpt.Fragment

/-! # Tokens where they stand -/

namespace PagedSearch

theorem byteSize_append (u v : List Char) : byteSize (u ++ v) = byteSize u + byteSize v := by
  induction u with
  | nil => simp [byteSize]
  | cons c rest ih =>
    simp only [List.cons_append, byteSize, ih]
    omega

private theorem splitBytes?_cons (c : Char) (n : Nat) (rest : List Char) :
    splitBytes? (c.utf8Size + n) (c :: rest) =
      (splitBytes? n rest).map fun (before, after) => (c :: before, after) := by
  obtain ⟨m, hm⟩ : ∃ m, c.utf8Size + n = m + 1 :=
    Nat.exists_eq_add_of_le' (Nat.le_add_right_of_le c.utf8Size_pos)
  have hfits : c.utf8Size ≤ m + 1 := by omega
  have hleft : m + 1 - c.utf8Size = n := by omega
  rw [hm, splitBytes?, if_pos hfits, hleft]

theorem splitBytes?_eq_some_iff {n : Nat} {text u v : List Char} :
    splitBytes? n text = some (u, v) ↔ u ++ v = text ∧ byteSize u = n := by
  constructor
  · intro h
    induction n, text using splitBytes?.induct generalizing u with
    | case1 text =>
      obtain ⟨rfl, rfl⟩ : [] = u ∧ text = v := by simpa [splitBytes?] using h
      simp [byteSize]
    | case2 n => simp [splitBytes?] at h
    | case3 n c rest hfits ih =>
      rw [splitBytes?, if_pos hfits] at h
      obtain ⟨⟨before, after⟩, hsplit, hpair⟩ := Option.map_eq_some_iff.mp h
      obtain ⟨rfl, rfl⟩ := Prod.mk.inj hpair
      obtain ⟨htext, hsize⟩ := ih hsplit
      refine ⟨by rw [List.cons_append, htext], ?_⟩
      rw [byteSize, hsize]
      omega
    | case4 n c rest hlong =>
      rw [splitBytes?, if_neg hlong] at h
      cases h
  · rintro ⟨rfl, rfl⟩
    induction u with
    | nil => simp [byteSize, splitBytes?]
    | cons c rest ih => rw [byteSize, List.cons_append, splitBytes?_cons, ih, Option.map_some]

namespace Token

variable {t : Token} {offset : Nat} {text after : List Char} {placed : PlacedToken}

theorem place?_eq_some_iff :
    t.place? offset text = some (placed, after) ↔
      placed.text = t.text ∧ placed.gap ++ (placed.surface ++ after) = text ∧
        t.start = offset + byteSize placed.gap ∧ t.stop = t.start + byteSize placed.surface := by
  obtain ⟨gap, surface, word⟩ := placed
  by_cases hoffsets : t.start < offset ∨ t.stop < t.start
  · have hnone : t.place? offset text = none := by simp [place?, hoffsets]
    rw [hnone]
    constructor
    · intro h
      cases h
    · rintro ⟨-, -, hstart, hstop⟩
      omega
  · simp only [place?, Bool.or_eq_true, decide_eq_true_eq, hoffsets, if_false]
    constructor
    · intro h
      obtain ⟨⟨u, rest⟩, hgap, h⟩ := Option.bind_eq_some_iff.mp h
      obtain ⟨⟨s, tail⟩, hsurface, h⟩ := Option.bind_eq_some_iff.mp h
      obtain ⟨htext, hgapSize⟩ := splitBytes?_eq_some_iff.mp hgap
      obtain ⟨hrest, hsurfaceSize⟩ := splitBytes?_eq_some_iff.mp hsurface
      simp only [pure, Option.some.injEq, Prod.mk.injEq, PlacedToken.mk.injEq] at h
      obtain ⟨⟨rfl, rfl, rfl⟩, rfl⟩ := h
      exact ⟨rfl, by rw [hrest, htext], by omega, by omega⟩
    · rintro ⟨rfl, rfl, hstart, hstop⟩
      have hgap : splitBytes? (t.start - offset) (gap ++ (surface ++ after)) =
          some (gap, surface ++ after) := splitBytes?_eq_some_iff.mpr ⟨rfl, by omega⟩
      have hsurface : splitBytes? (t.stop - t.start) (surface ++ after) = some (surface, after) :=
        splitBytes?_eq_some_iff.mpr ⟨rfl, by omega⟩
      simp [hgap, hsurface]

def before (t : Token) (text : List Char) : List Char :=
  match t.place? 0 text with
  | some (placed, _) => placed.gap
  | none => []

def surface (t : Token) (text : List Char) : List Char :=
  match t.place? 0 text with
  | some (placed, _) => placed.surface
  | none => []

theorem stop_of_place? {earlier : List Char}
    (hplace : t.place? (byteSize earlier) text = some (placed, after)) :
    t.stop = byteSize (earlier ++ placed.chars) ∧
      earlier ++ text = earlier ++ placed.chars ++ after := by
  obtain ⟨-, htext, hstart, hstop⟩ := place?_eq_some_iff.mp hplace
  constructor
  · rw [hstop, hstart, byteSize_append, PlacedToken.chars, byteSize_append, Nat.add_assoc]
  · rw [← htext, PlacedToken.chars, List.append_assoc, List.append_assoc]

private theorem before_surface_of_place? {earlier : List Char}
    (hplace : t.place? (byteSize earlier) text = some (placed, after)) :
    t.before (earlier ++ text) = earlier ++ placed.gap ∧
      t.surface (earlier ++ text) = placed.surface := by
  obtain ⟨-, htext, hstart, hstop⟩ := place?_eq_some_iff.mp hplace
  have hwhole : t.place? 0 (earlier ++ text) =
      some (⟨earlier ++ placed.gap, placed.surface, t.text⟩, after) := by
    refine place?_eq_some_iff.mpr ⟨rfl, ?_, ?_, hstop⟩
    · rw [List.append_assoc, htext]
    · rw [hstart, byteSize_append, Nat.zero_add]
  simp only [before, surface, hwhole, and_self]

end Token

theorem placeTokens_text (offset : Nat) (text : List Char) (tokens : List Token) :
    (placeTokens offset text tokens).1.flatMap PlacedToken.chars ++
      (placeTokens offset text tokens).2 = text := by
  induction tokens generalizing offset text with
  | nil => simp [placeTokens]
  | cons t rest ih =>
    rcases hplace : t.place? offset text with - | ⟨placed, after⟩
    · simp only [placeTokens, hplace, ih]
    · obtain ⟨-, htext, -, -⟩ := Token.place?_eq_some_iff.mp hplace
      simp only [placeTokens, hplace, List.flatMap_cons, List.append_assoc, ih,
        PlacedToken.chars, htext]

private theorem placeTokens_surfaces (earlier text : List Char) (tokens : List Token) :
    ((placeTokens (byteSize earlier) text tokens).1.map fun p => (p.text, p.surface)).Sublist
      (tokens.map fun t => (t.text, t.surface (earlier ++ text))) := by
  induction tokens generalizing earlier text with
  | nil => simp [placeTokens]
  | cons t rest ih =>
    rcases hplace : t.place? (byteSize earlier) text with - | ⟨placed, after⟩
    · simp only [placeTokens, hplace, List.map_cons]
      exact (ih earlier text).cons _
    · obtain ⟨hstop, hwhole⟩ := Token.stop_of_place? hplace
      have hword := (Token.place?_eq_some_iff.mp hplace).1
      have hsurface := (Token.before_surface_of_place? hplace).2
      simp only [placeTokens, hplace, List.map_cons, hword, hsurface, hstop]
      rw [hwhole]
      exact (ih (earlier ++ placed.chars) after).cons_cons _

theorem exists_token_of_placed {earlier text : List Char} {tokens : List Token}
    {first second : List PlacedToken} {p : PlacedToken}
    (hplaced : (placeTokens (byteSize earlier) text tokens).1 = first ++ p :: second) :
    ∃ t ∈ tokens, t.text = p.text ∧
      t.before (earlier ++ text) = earlier ++ (first.flatMap PlacedToken.chars ++ p.gap) := by
  induction tokens generalizing earlier text first with
  | nil => simp [placeTokens] at hplaced
  | cons t rest ih =>
    rcases hplace : t.place? (byteSize earlier) text with - | ⟨placed, after⟩
    · simp only [placeTokens, hplace] at hplaced
      obtain ⟨u, hu, hprop⟩ := ih hplaced
      exact ⟨u, List.mem_cons_of_mem t hu, hprop⟩
    · simp only [placeTokens, hplace] at hplaced
      cases first with
      | nil =>
        obtain ⟨rfl, -⟩ := List.cons.inj hplaced
        have hword := (Token.place?_eq_some_iff.mp hplace).1
        exact ⟨t, List.mem_cons_self, hword.symm, (Token.before_surface_of_place? hplace).1⟩
      | cons q first =>
        obtain ⟨rfl, hothers⟩ := List.cons.inj hplaced
        obtain ⟨hstop, hwhole⟩ := Token.stop_of_place? hplace
        rw [hstop] at hothers
        obtain ⟨u, hu, huword, hbefore⟩ := ih hothers
        refine ⟨u, List.mem_cons_of_mem t hu, huword, ?_⟩
        rw [hwhole, hbefore, List.flatMap_cons, List.append_assoc, List.append_assoc]

private theorem placeTokens_wordSpans {gap text : List Char} {offset : Nat} {tokens : List Token}
    (hspans : List.Forall₂ (fun (w : WordSpan) (t : Token) => t.start = w.start ∧ t.stop = w.stop)
      (wordSpans (offset + byteSize gap) text) tokens) :
    (placeTokens offset (gap ++ text) tokens).1.map PlacedToken.text = tokens.map Token.text ∧
      ∀ p ∈ (placeTokens offset (gap ++ text) tokens).1,
        ∀ c ∈ p.surface, Unicode.isWordChar c = true := by
  generalize hfrom : offset + byteSize gap = start at hspans
  induction start, text using wordSpans.induct generalizing gap offset tokens with
  | case1 start =>
    rw [wordSpans] at hspans
    obtain rfl := List.forall₂_nil_left_iff.mp hspans
    simp [placeTokens]
  | case2 start c rest hc word =>
    rename_i ih
    rw [wordSpans, if_pos hc] at hspans
    obtain ⟨t, others, ⟨hstart, hstop⟩, hothers, rfl⟩ := List.forall₂_cons_left_iff.mp hspans
    have hplace : t.place? offset (gap ++ c :: rest) =
        some (⟨gap, word, t.text⟩, rest.dropWhile Unicode.isWordChar) := by
      refine Token.place?_eq_some_iff.mpr ⟨rfl, ?_, ?_, ?_⟩
      · simp [word, List.takeWhile_append_dropWhile]
      · rw [hstart, ← hfrom]
      · rw [hstop, hstart, WordSpan.stop]
    have hnext : t.stop + byteSize [] = start + byteSize word := by
      rw [hstop, WordSpan.stop]
      rfl
    obtain ⟨htexts, hwords⟩ := ih hnext hothers
    rw [List.nil_append] at htexts hwords
    simp only [placeTokens, hplace, List.map_cons, htexts, true_and, List.forall_mem_cons]
    refine ⟨?_, hwords⟩
    intro d hd
    rcases List.mem_cons.mp hd with rfl | hd
    · exact hc
    · exact List.mem_takeWhile_imp hd
  | case3 start c rest hc ih =>
    rw [wordSpans, if_neg hc] at hspans
    have hgap : gap ++ c :: rest = (gap ++ [c]) ++ rest := by simp
    have hsize : offset + byteSize (gap ++ [c]) = start + c.utf8Size := by
      rw [byteSize_append, ← hfrom]
      simp [byteSize, Nat.add_assoc]
    rw [hgap]
    exact ih hsize hspans

private theorem forall₂_mapIdx {α β : Type} {R : α → β → Prop} {f : Nat → α → β}
    (h : ∀ i a, R a (f i a)) (l : List α) : List.Forall₂ R l (l.mapIdx f) := by
  induction l generalizing f with
  | nil => simp
  | cons a rest ih =>
    rw [List.mapIdx_cons]
    exact .cons (h 0 a) (ih fun i b => h (i + 1) b)

@[simp]
theorem Token.lowercase_start (t : Token) : t.lowercase.start = t.start := by
  unfold lowercase
  split <;> rfl

@[simp]
theorem Token.lowercase_stop (t : Token) : t.lowercase.stop = t.stop := by
  unfold lowercase
  split <;> rfl

theorem Analyzer.analyze_wordSpans (analyzer : Analyzer) (text : String) :
    List.Forall₂ (fun (w : WordSpan) (t : Token) => t.start = w.start ∧ t.stop = w.stop)
      (wordSpans 0 text.toList) (analyzer.analyze text) := by
  cases analyzer with
  | plain => exact forall₂_mapIdx (fun i w => ⟨rfl, rfl⟩) _
  | standard =>
    rw [analyze, List.forall₂_map_right_iff]
    exact forall₂_mapIdx (fun i w => by simp [WordSpan.toToken]) _

namespace Analyzer

def place (analyzer : Analyzer) (text : String) : List PlacedToken × List Char :=
  placeTokens 0 text.toList (analyzer.analyze text)

theorem place_words (analyzer : Analyzer) (text : String) :
    (analyzer.place text).1.map PlacedToken.text = (analyzer.analyze text).map Token.text ∧
      ∀ p ∈ (analyzer.place text).1, ∀ c ∈ p.surface, Unicode.isWordChar c = true :=
  @placeTokens_wordSpans [] text.toList 0 _ (analyzer.analyze_wordSpans text)

theorem place_surfaces (analyzer : Analyzer) (text : String) :
    (analyzer.place text).1.map (fun p => (p.text, p.surface)) =
      (analyzer.analyze text).map fun t => (t.text, t.surface text.toList) := by
  have hlength := congrArg List.length (analyzer.place_words text).1
  have hsub := placeTokens_surfaces [] text.toList (analyzer.analyze text)
  refine hsub.eq_of_length ?_
  simpa [place, byteSize] using hlength

end Analyzer

end PagedSearch
