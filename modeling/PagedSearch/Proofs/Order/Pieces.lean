import PagedSearch.Order.Specification
import PagedSearch.Proofs.Text.Split

/-! # Texts in pieces -/

namespace PagedSearch

variable {delimiter : Char} {text : List Char} {parts : List (List Char)}

theorem pieces_nil (delimiter : Char) : pieces delimiter [] = [] := by rw [pieces]

theorem pieces_cons_delimiter (text : List Char) :
    pieces delimiter (delimiter :: text) = pieces delimiter text := by
  rw [pieces, if_pos rfl]

theorem pieces_of_not_mem (h : delimiter ∉ text) (hne : text ≠ []) :
    pieces delimiter text = [text] := by
  obtain ⟨c, rest, rfl⟩ := List.exists_cons_of_ne_nil hne
  rw [List.mem_cons, not_or] at h
  rw [pieces, if_neg (Ne.symm h.1), takeWhile_ne_of_not_mem h.2, dropWhile_ne_of_not_mem h.2,
    pieces_nil]

/-- A text falls into pieces at each of its delimiters. -/
theorem pieces_append_delimiter (text rest : List Char) :
    pieces delimiter (text ++ delimiter :: rest) =
      pieces delimiter text ++ pieces delimiter rest := by
  fun_induction pieces delimiter text with
  | case1 => rw [List.nil_append, pieces_cons_delimiter, List.nil_append]
  | case2 text ih => rw [List.cons_append, pieces_cons_delimiter, ih]
  | case3 c text hc ih =>
    rw [List.cons_append, pieces, if_neg hc, takeWhile_append_stop (by simp),
      dropWhile_append_stop (by simp), ih, List.cons_append]

/-- Parts that a text joins with delimiters, of which any number may stand in a row or at either
end. -/
inductive Joins (delimiter : Char) : List (List Char) → List Char → Prop where
  | nil : Joins delimiter [] []
  | skip {parts : List (List Char)} {text : List Char} (rest : Joins delimiter parts text) :
      Joins delimiter parts (delimiter :: text)
  | last (part : List Char) : Joins delimiter [part] part
  | part {parts : List (List Char)} {text : List Char} (part : List Char)
      (rest : Joins delimiter parts text) :
      Joins delimiter (part :: parts) (part ++ delimiter :: text)

theorem Joins.mem {c : Char} (h : Joins delimiter parts text) (hc : c ∈ text) :
    c = delimiter ∨ ∃ part ∈ parts, c ∈ part := by
  induction h with
  | nil => cases hc
  | skip _ ih =>
    rcases List.mem_cons.mp hc with rfl | hc
    · exact .inl rfl
    · exact ih hc
  | last part => exact .inr ⟨part, List.mem_singleton_self part, hc⟩
  | part part _ ih =>
    rcases List.mem_append.mp hc with hc | hc
    · exact .inr ⟨part, List.mem_cons_self, hc⟩
    rcases List.mem_cons.mp hc with rfl | hc
    · exact .inl rfl
    · refine (ih hc).imp_right ?_
      rintro ⟨other, hother, hc⟩
      exact ⟨other, List.mem_cons_of_mem part hother, hc⟩

theorem joins_intercalate (parts : List (List Char)) :
    Joins delimiter parts ([delimiter].intercalate parts) := by
  induction parts with
  | nil => exact .nil
  | cons part rest ih =>
    cases rest with
    | nil =>
      rw [List.intercalate_singleton]
      exact .last part
    | cons next rest =>
      rw [List.intercalate_cons_cons, List.append_assoc, List.singleton_append]
      exact .part part ih

/-- Joined parts are the pieces of a text if none of them is empty or has a delimiter in it. -/
theorem Joins.pieces_eq (h : Joins delimiter parts text)
    (hparts : ∀ part ∈ parts, part ≠ [] ∧ delimiter ∉ part) : pieces delimiter text = parts := by
  induction h with
  | nil => exact pieces_nil delimiter
  | skip _ ih => rw [pieces_cons_delimiter, ih hparts]
  | last part =>
    obtain ⟨hne, hmem⟩ := hparts part (List.mem_singleton_self part)
    exact pieces_of_not_mem hmem hne
  | part part _ ih =>
    obtain ⟨⟨hne, hmem⟩, hrest⟩ := List.forall_mem_cons.mp hparts
    rw [pieces_append_delimiter, pieces_of_not_mem hmem hne, ih hrest, List.singleton_append]

private theorem joins_pieces (delimiter : Char) (text : List Char) :
    Joins delimiter (pieces delimiter text) text := by
  -- The text behind the first delimiter is shorter, so the induction is on the length.
  induction hn : text.length using Nat.strongRecOn generalizing text with
  | ind n ih =>
    by_cases hmem : delimiter ∈ text
    · obtain ⟨first, rest, rfl, hfirst⟩ := List.eq_append_cons_of_mem hmem
      have hrest := ih rest.length (by simp [← hn]; omega) rest rfl
      rw [pieces_append_delimiter]
      by_cases hnil : first = []
      · rw [hnil, pieces_nil]
        exact .skip hrest
      · rw [pieces_of_not_mem hfirst hnil]
        exact .part first hrest
    · by_cases hnil : text = []
      · rw [hnil, pieces_nil]
        exact .nil
      · rw [pieces_of_not_mem hmem hnil]
        exact .last text

theorem mem_pieces {part : List Char} (h : part ∈ pieces delimiter text) :
    part ≠ [] ∧ delimiter ∉ part := by
  fun_induction pieces delimiter text with
  | case1 => cases h
  | case2 text ih => exact ih h
  | case3 c text hc ih =>
    rcases List.mem_cons.mp h with rfl | h
    · refine ⟨List.cons_ne_nil _ _, ?_⟩
      rw [List.mem_cons, not_or]
      refine ⟨Ne.symm hc, fun hmem => ?_⟩
      simpa using List.mem_takeWhile_imp hmem
    · exact ih h

def Lists (delimiter : Char) (parts : List (List Char)) (text : List Char) : Prop :=
  ∃ raw, Joins delimiter raw text ∧ (∀ part ∈ raw, part ≠ [] ∧ delimiter ∉ part) ∧
    parts = raw.map Unicode.trim

theorem lists_iff : Lists delimiter parts text ↔ trimmedPieces delimiter text = parts := by
  constructor
  · rintro ⟨raw, hjoins, hraw, rfl⟩
    rw [trimmedPieces, hjoins.pieces_eq hraw]
  · rintro rfl
    exact ⟨_, joins_pieces delimiter text, fun _ => mem_pieces, rfl⟩

private theorem trimmedPieces_append_delimiter (text rest : List Char) :
    trimmedPieces delimiter (text ++ delimiter :: rest) =
      trimmedPieces delimiter text ++ trimmedPieces delimiter rest := by
  rw [trimmedPieces, pieces_append_delimiter, List.map_append, trimmedPieces, trimmedPieces]

theorem trimmedPieces_of_not_mem (h : delimiter ∉ text) (hne : text ≠ []) :
    trimmedPieces delimiter text = [Unicode.trim text] := by
  rw [trimmedPieces, pieces_of_not_mem h hne, List.map_singleton]

private theorem trimmedPieces_eq_of_trim_eq {trimmed : List Char} (hsub : trimmed.Sublist text)
    (htrim : Unicode.trim trimmed = Unicode.trim text) (hmem : delimiter ∉ text)
    (hblank : [] ∉ trimmedPieces delimiter text) :
    trimmedPieces delimiter trimmed = trimmedPieces delimiter text := by
  by_cases hnil : text = []
  · rw [hnil] at hsub ⊢
    rw [List.sublist_nil.mp hsub]
  · rw [trimmedPieces_of_not_mem hmem hnil] at hblank ⊢
    have hne : trimmed ≠ [] := by
      rintro rfl
      exact hblank (List.mem_singleton.mpr htrim)
    rw [trimmedPieces_of_not_mem (fun h => hmem (hsub.subset h)) hne, htrim]

section Trim

variable (hspace : Unicode.isSpace delimiter = false) (hblank : [] ∉ trimmedPieces delimiter text)

include hspace hblank

private theorem trimmedPieces_trimStart :
    trimmedPieces delimiter (Unicode.trimStart text) = trimmedPieces delimiter text := by
  have hsub (part : List Char) : (Unicode.trimStart part).Sublist part :=
    List.dropWhile_sublist Unicode.isSpace
  by_cases hmem : delimiter ∈ text
  · obtain ⟨first, rest, rfl, hfirst⟩ := List.eq_append_cons_of_mem hmem
    rw [trimmedPieces_append_delimiter, List.mem_append, not_or] at hblank
    have hstart : Unicode.trimStart (first ++ delimiter :: rest) =
        Unicode.trimStart first ++ delimiter :: rest := dropWhile_append_stop hspace first rest
    rw [hstart, trimmedPieces_append_delimiter, trimmedPieces_append_delimiter,
      trimmedPieces_eq_of_trim_eq (hsub first) (Unicode.trim_trimStart first) hfirst hblank.1]
  · exact trimmedPieces_eq_of_trim_eq (hsub text) (Unicode.trim_trimStart text) hmem hblank

private theorem trimmedPieces_trimEnd :
    trimmedPieces delimiter (Unicode.trimEnd text) = trimmedPieces delimiter text := by
  have hsub (part : List Char) : (Unicode.trimEnd part).Sublist part := by
    rw [← List.reverse_sublist, Unicode.trimEnd, List.reverse_reverse]
    exact List.dropWhile_sublist Unicode.isSpace
  by_cases hmem : delimiter ∈ text
  · obtain ⟨front, final, rfl, hfinal⟩ := exists_last_of_mem hmem
    rw [trimmedPieces_append_delimiter, List.mem_append, not_or] at hblank
    rw [Unicode.trimEnd_append_cons hspace, trimmedPieces_append_delimiter,
      trimmedPieces_append_delimiter,
      trimmedPieces_eq_of_trim_eq (hsub final) (Unicode.trim_trimEnd final) hfinal hblank.2]
  · exact trimmedPieces_eq_of_trim_eq (hsub text) (Unicode.trim_trimEnd text) hmem hblank

theorem trimmedPieces_trim :
    trimmedPieces delimiter (Unicode.trim text) = trimmedPieces delimiter text := by
  have hstart := trimmedPieces_trimStart hspace hblank
  rw [Unicode.trim, trimmedPieces_trimEnd hspace (hstart.symm ▸ hblank), hstart]

end Trim

end PagedSearch
