import Mathlib.Data.List.DropRight
import PagedSearch.Proofs.Order.Grammar

/-!
# Edited specifications

The kind of one criterion is replaced in the text of a specification. The rest of the text stays as
it is, the white space around the kind included, and so do all other parts of the specification.
-/

namespace PagedSearch

namespace Unicode

variable {f : List Char → List Char} {text : List Char}

theorem trim_trim (text : List Char) : trim (trim text) = trim text := by
  show trim (trimEnd (trimStart text)) = trim text
  rw [trim_trimEnd, trim_trimStart]

private theorem last_of_trimmed (h : trim text = text) {c : Char} (hc : text.getLast? = some c) :
    isSpace c = false := by
  have hend : text.rdropWhile isSpace = text := by
    show trimEnd text = text
    conv_lhs => rw [← trimStart_of_trimmed h]
    exact h
  have hne : text ≠ [] := by
    rintro rfl
    cases hc
  rw [List.getLast?_eq_some_getLast hne] at hc
  cases hc
  simpa using List.rdropWhile_eq_self_iff.mp hend hne

theorem trim_append_cons {before after : List Char} (hbefore : trim before = before)
    (hafter : trim after = after) (hbefore' : before ≠ []) (hafter' : after ≠ []) (c : Char) :
    trim (before ++ c :: after) = before ++ c :: after := by
  apply trim_eq_self
  · intro d hd
    obtain ⟨e, rest, rfl⟩ := List.exists_cons_of_ne_nil hbefore'
    obtain rfl : e = d := by simpa using hd
    exact head_of_trimmed hbefore
  · intro d hd
    rw [List.getLast?_append_of_ne_nil _ (List.cons_ne_nil c after),
      List.getLast?_cons_of_ne_nil hafter'] at hd
    exact last_of_trimmed hafter hd

def mapTrimmed (f : List Char → List Char) (text : List Char) : List Char :=
  text.takeWhile isSpace ++ (f (trim text) ++ (trimStart text).rtakeWhile isSpace)

private theorem trim_mapTrimmed (h : trim (f (trim text)) = f (trim text)) :
    trim (mapTrimmed f text) = f (trim text) := by
  rw [mapTrimmed, trim_append_space, h]
  · exact fun c hc => List.mem_takeWhile_imp hc
  · exact fun c hc => List.mem_rtakeWhile_imp hc

private theorem mapTrimmed_of_last (hlast : ∀ c, text.getLast? = some c → isSpace c = false) :
    mapTrimmed f text = text.takeWhile isSpace ++ f (trim text) := by
  have hsplit : text.takeWhile isSpace ++ trimStart text = text :=
    List.takeWhile_append_dropWhile
  have hend : (trimStart text).rtakeWhile isSpace = [] := by
    refine List.rtakeWhile_eq_nil_iff.mpr fun hne => ?_
    rw [Bool.not_eq_true]
    apply hlast
    rw [← List.getLast?_eq_some_getLast hne, ← List.getLast?_append_of_ne_nil _ hne, hsplit]
  rw [mapTrimmed, hend, List.append_nil]

private theorem mapTrimmed_subset {c : Char} (hc : c ∈ mapTrimmed f text) :
    c ∈ text ∨ c ∈ f (trim text) := by
  rw [mapTrimmed, List.mem_append, List.mem_append] at hc
  rcases hc with hc | hc | hc
  · exact .inl ((List.takeWhile_sublist isSpace).subset hc)
  · exact .inr hc
  · exact .inl ((List.dropWhile_sublist isSpace).subset
      ((List.rtakeWhile_suffix isSpace _).subset hc))

end Unicode

section Pieces

variable {delimiter : Char} {place : Nat} {text piece : List Char}

def modifyPiece (delimiter : Char) (f : List Char → List Char) (place : Nat) (text : List Char) :
    List Char :=
  match text with
  | [] => []
  | c :: rest =>
    if c = delimiter then
      c :: modifyPiece delimiter f place rest
    else
      match place with
      | 0 => f (c :: rest.takeWhile (· ≠ delimiter)) ++ rest.dropWhile (· ≠ delimiter)
      | next + 1 =>
        c :: rest.takeWhile (· ≠ delimiter) ++
          modifyPiece delimiter f next (rest.dropWhile (· ≠ delimiter))
termination_by text.length
decreasing_by
  · simp
  · have := (List.dropWhile_sublist (· ≠ delimiter) (l := rest)).length_le
    simp only [List.length_cons]
    omega

variable {f : List Char → List Char} {c : Char} {rest : List Char}

private theorem modifyPiece_delimiter (rest : List Char) :
    modifyPiece delimiter f place (delimiter :: rest) =
      delimiter :: modifyPiece delimiter f place rest := by
  rw [modifyPiece.eq_def]
  simp

private theorem modifyPiece_zero (hc : c ≠ delimiter) :
    modifyPiece delimiter f 0 (c :: rest) =
      f (c :: rest.takeWhile (· ≠ delimiter)) ++ rest.dropWhile (· ≠ delimiter) := by
  rw [modifyPiece.eq_def]
  exact if_neg hc

private theorem modifyPiece_succ (hc : c ≠ delimiter) :
    modifyPiece delimiter f (place + 1) (c :: rest) =
      c :: rest.takeWhile (· ≠ delimiter) ++
        modifyPiece delimiter f place (rest.dropWhile (· ≠ delimiter)) := by
  rw [modifyPiece.eq_def]
  exact if_neg hc

structure Frames (delimiter : Char) (place : Nat) (before after : List Char) : Prop where
  place : (pieces delimiter before).length = place
  pieces : ∀ piece, piece ≠ [] → delimiter ∉ piece →
    pieces delimiter (before ++ (piece ++ after)) =
      pieces delimiter before ++ piece :: pieces delimiter after

private theorem Frames.first (delimiter : Char) {after : List Char}
    (hafter : after = [] ∨ ∃ rest, after = delimiter :: rest) : Frames delimiter 0 [] after where
  place := by rw [pieces_nil]; rfl
  pieces := by
    intro piece hne hmem
    rw [pieces_nil, List.nil_append, List.nil_append]
    rcases hafter with rfl | ⟨rest, rfl⟩
    · rw [List.append_nil, pieces_of_not_mem hmem hne, pieces_nil]
    · rw [pieces_append_delimiter, pieces_of_not_mem hmem hne, pieces_cons_delimiter]
      rfl

variable {before after : List Char}

private theorem Frames.skip (h : Frames delimiter place before after) :
    Frames delimiter place (delimiter :: before) after where
  place := by rw [pieces_cons_delimiter, h.place]
  pieces := by
    intro piece hne hmem
    rw [List.cons_append, pieces_cons_delimiter, pieces_cons_delimiter, h.pieces piece hne hmem]

private theorem Frames.behind {first : List Char} (hne : first ≠ []) (hmem : delimiter ∉ first)
    (h : Frames delimiter place (delimiter :: before) after) :
    Frames delimiter (place + 1) (first ++ delimiter :: before) after where
  place := by
    rw [pieces_append_delimiter, pieces_of_not_mem hmem hne, ← pieces_cons_delimiter,
      List.length_append, h.place, Nat.add_comm, List.length_singleton]
  pieces := by
    intro piece hne' hmem'
    have hinner := h.pieces piece hne' hmem'
    rw [List.cons_append, pieces_cons_delimiter, pieces_cons_delimiter] at hinner
    rw [List.append_assoc, List.cons_append, pieces_append_delimiter, hinner,
      pieces_append_delimiter, List.append_assoc]

private theorem dropWhile_ne_cases (delimiter : Char) (text : List Char) :
    text.dropWhile (· ≠ delimiter) = [] ∨
      ∃ rest, text.dropWhile (· ≠ delimiter) = delimiter :: rest := by
  by_cases h : delimiter ∈ text
  · obtain ⟨front, rest, rfl, hfront⟩ := List.eq_append_cons_of_mem h
    exact .inr ⟨rest, dropWhile_ne_append hfront rest⟩
  · exact .inl (dropWhile_ne_of_not_mem h)

/-- A change in a piece leaves what stands around it. -/
theorem exists_frames (h : (pieces delimiter text)[place]? = some piece) :
    ∃ before after, Frames delimiter place before after ∧ text = before ++ (piece ++ after) ∧
      ∀ f, modifyPiece delimiter f place text = before ++ (f piece ++ after) := by
  fun_induction pieces delimiter text generalizing place with
  | case1 => cases h
  | case2 rest ih =>
    obtain ⟨before, after, hframes, hrest, hmodify⟩ := ih h
    refine ⟨delimiter :: before, after, hframes.skip, ?_, fun f => ?_⟩
    · rw [hrest, List.cons_append]
    · rw [modifyPiece_delimiter, hmodify, List.cons_append]
  | case3 c rest hc ih =>
    have hsplit : c :: rest = c :: rest.takeWhile (· ≠ delimiter) ++
        rest.dropWhile (· ≠ delimiter) := by
      rw [List.cons_append, List.takeWhile_append_dropWhile]
    have hfirst : delimiter ∉ c :: rest.takeWhile (· ≠ delimiter) := by
      rw [List.mem_cons, not_or]
      exact ⟨Ne.symm hc, fun hmem => by simpa using List.mem_takeWhile_imp hmem⟩
    cases place with
    | zero =>
      obtain rfl : _ = piece := Option.some.inj h
      exact ⟨[], _, .first delimiter (dropWhile_ne_cases delimiter rest), hsplit,
        fun f => modifyPiece_zero hc⟩
    | succ place =>
      obtain ⟨before, after, hframes, hrest, hmodify⟩ := ih h
      obtain ⟨hne, hmem⟩ := mem_pieces (List.mem_of_getElem? h)
      -- The delimiter behind the first piece begins what stands before the piece at the place.
      obtain ⟨inner, rfl⟩ : ∃ inner, before = delimiter :: inner := by
        have hhead {d : Char} {rest' : List Char}
            (hcons : rest.dropWhile (· ≠ delimiter) = d :: rest') : d = delimiter := by
          rcases dropWhile_ne_cases delimiter rest with hnil | ⟨behind, hbehind⟩
          · rw [hnil] at hcons
            cases hcons
          · rw [hbehind] at hcons
            exact (List.cons.inj hcons).1.symm
        cases before with
        | nil =>
          obtain ⟨d, piece', rfl⟩ := List.exists_cons_of_ne_nil hne
          exact absurd (hhead hrest ▸ List.mem_cons_self) hmem
        | cons d inner => exact ⟨inner, by rw [hhead hrest]⟩
      refine ⟨_, after, hframes.behind (List.cons_ne_nil _ _) hfirst, ?_, fun f => ?_⟩
      · rw [List.append_assoc, ← hrest, ← hsplit]
      · rw [modifyPiece_succ hc, hmodify, List.append_assoc]

private theorem modifyPiece_subset (h : (pieces delimiter text)[place]? = some piece)
    (hc : c ∈ modifyPiece delimiter f place text) : c ∈ text ∨ c ∈ f piece := by
  obtain ⟨before, after, -, rfl, hmodify⟩ := exists_frames h
  rw [hmodify] at hc
  simp only [List.mem_append] at hc ⊢
  rcases hc with hc | hc | hc
  · exact .inl (.inl hc)
  · exact .inr hc
  · exact .inl (.inr (.inr hc))

theorem pieces_modifyPiece (h : (pieces delimiter text)[place]? = some piece) (hne : f piece ≠ [])
    (hmem : delimiter ∉ f piece) :
    pieces delimiter (modifyPiece delimiter f place text) =
      (pieces delimiter text).set place (f piece) := by
  obtain ⟨hne', hmem'⟩ := mem_pieces (List.mem_of_getElem? h)
  obtain ⟨before, after, hframes, rfl, hmodify⟩ := exists_frames h
  rw [hmodify, hframes.pieces _ hne hmem, hframes.pieces piece hne' hmem',
    List.set_append_right _ _ hframes.place.le, hframes.place, Nat.sub_self, List.set_cons_zero]

end Pieces

namespace SortSpec

def retype (kind : List Char) (piece : List Char) : List Char :=
  Unicode.mapTrimmed (modifyPiece ',' (Unicode.mapTrimmed fun _ => kind) 1) piece

def withKind (kind : String) (place : Nat) (text : String) : String :=
  .ofList (modifyPiece ';' (retype kind.toList) place text.toList)

section Retype

variable {kind piece raw : List Char} (hraw : (pieces ',' (Unicode.trim piece))[1]? = some raw)

include hraw

theorem retype_subset {c : Char} (hc : c ∈ retype kind piece) : c ∈ piece ∨ c ∈ kind := by
  have htrim {c : Char} (hc : c ∈ Unicode.trim piece) : c ∈ piece := Unicode.trim_subset piece hc
  rcases Unicode.mapTrimmed_subset hc with hc | hc
  · exact .inl hc
  rcases modifyPiece_subset hraw hc with hc | hc
  · exact .inl (htrim hc)
  rcases Unicode.mapTrimmed_subset hc with hc | hc
  · obtain ⟨before, after, -, hsplit, -⟩ := exists_frames hraw
    refine .inl (htrim ?_)
    rw [hsplit]
    simp [hc]
  · exact .inr hc

variable (hkind : kind ≠ []) (htrim : Unicode.trim kind = kind)

include hkind htrim

private theorem trim_retype : Unicode.trim (retype kind piece) =
    modifyPiece ',' (Unicode.mapTrimmed fun _ => kind) 1 (Unicode.trim piece) := by
  obtain ⟨before, after, hframes, hold, hmodify⟩ := exists_frames hraw
  have hpiece := Unicode.trim_trim piece
  rw [hold] at hpiece
  have hbefore : before ≠ [] := by
    rintro rfl
    simpa [pieces_nil] using hframes.place
  apply Unicode.trim_mapTrimmed
  rw [hmodify]
  apply Unicode.trim_eq_self
  · intro c hc
    obtain ⟨first, front, rfl⟩ := List.exists_cons_of_ne_nil hbefore
    obtain rfl : first = c := by simpa using hc
    exact Unicode.head_of_trimmed hpiece
  · intro c hc
    by_cases hafter : after = []
    · -- Nothing stands behind the kind, not even white space.
      subst hafter
      have hlast (d : Char) (hd : raw.getLast? = some d) : Unicode.isSpace d = false := by
        apply Unicode.last_of_trimmed hpiece
        rw [List.append_nil, List.getLast?_append_of_ne_nil]
        · exact hd
        · rintro rfl
          cases hd
      rw [List.append_nil, Unicode.mapTrimmed_of_last hlast, ← List.append_assoc,
        List.getLast?_append_of_ne_nil _ hkind] at hc
      exact Unicode.last_of_trimmed htrim hc
    · apply Unicode.last_of_trimmed hpiece
      rw [← List.append_assoc, List.getLast?_append_of_ne_nil _ hafter] at hc ⊢
      exact hc

variable (hmem : ',' ∉ kind)

include hmem

theorem trimmedPieces_retype : trimmedPieces ',' (Unicode.trim (retype kind piece)) =
    (trimmedPieces ',' (Unicode.trim piece)).set 1 kind := by
  have hnew : Unicode.trim (Unicode.mapTrimmed (fun _ => kind) raw) = kind :=
    Unicode.trim_mapTrimmed htrim
  have hne : Unicode.mapTrimmed (fun _ => kind) raw ≠ [] := by
    intro hnil
    rw [hnil] at hnew
    exact hkind hnew.symm
  have hcomma : ',' ∉ Unicode.mapTrimmed (fun _ => kind) raw := by
    intro hc
    rcases Unicode.mapTrimmed_subset hc with hc | hc
    · exact (mem_pieces (List.mem_of_getElem? hraw)).2 hc
    · exact hmem hc
  rw [trim_retype hraw hkind htrim, trimmedPieces, pieces_modifyPiece hraw hne hcomma, List.map_set,
    hnew, trimmedPieces]

end Retype

end SortSpec

end PagedSearch
