import PagedSearch.Proofs.Excerpt.Repair

/-!
# The segments of a repaired text

A repaired text has as many segments as the text itself, and none of them ends in a cut reference.
The end of a segment that was cut back and the separator behind it could make up a new occurrence of
the separator. They do not if nothing but a space both begins and ends the separator: what is cut
off begins with a space, so that occurrence would have stood in the text before.
-/

namespace PagedSearch

/-- Behind its last space a segment has a word that begins an entity reference and does not complete
it. -/
def EndsCut (segment : List Char) : Prop :=
  ∃ front word, segment = front ++ ' ' :: word ∧ ' ' ∉ word ∧
    word.head? = some '&' ∧ word.getLast? ≠ some ';'

/-- Nothing but a space both begins and ends a text, the text itself apart. -/
def OverlapsInSpace (text : List Char) : Prop :=
  ∀ border ∈ text.inits, border ≠ [] → border ≠ text → border <:+ text → border = [' ']

instance (text : List Char) : Decidable (OverlapsInSpace text) :=
  inferInstanceAs (Decidable (∀ border ∈ text.inits,
    border ≠ [] → border ≠ text → border <:+ text → border = [' ']))

/-- The parts of a text at the occurrences of a mark: none begins within a part that the mark stands
behind, and there is none in the last part. -/
inductive PartsAt (mark : List Char) : List (List Char) → Prop
  | last {part} (unmarked : ¬ mark <:+: part) : PartsAt mark [part]
  | cons {part others} (unmarked : ¬ mark <:+: part ++ mark.dropLast)
      (behind : PartsAt mark others) : PartsAt mark (part :: others)

variable {mark part segment : List Char} {parts : List (List Char)}

section Parts

private theorem PartsAt.ne_nil (h : PartsAt mark parts) : parts ≠ [] := by
  cases h <;> exact List.cons_ne_nil _ _

private theorem not_infix_dropLast (hmark : mark ≠ []) : ¬ mark <:+: mark.dropLast := by
  intro h
  have hshorter := h.length_le
  have hpos := List.length_pos_of_ne_nil hmark
  rw [List.length_dropLast] at hshorter
  omega

private theorem dropLast_prefix_append (part mark rest : List Char) :
    part ++ mark.dropLast <+: part ++ (mark ++ rest) :=
  List.prefix_append_right_inj part |>.mpr
    ((List.dropLast_prefix mark).trans (List.prefix_append mark rest))

private theorem not_prefix_of_unmarked {c : Char} (h : ¬ mark <:+: c :: part ++ mark.dropLast)
    (rest : List Char) : ¬ mark <+: c :: (part ++ (mark ++ rest)) := by
  intro hoccurs
  apply h
  refine (List.prefix_of_prefix_length_le hoccurs
    (dropLast_prefix_append (c :: part) mark rest) ?_).isInfix
  simp only [List.length_append, List.length_cons, List.length_dropLast]
  omega

private theorem segments_append (hmark : mark ≠ []) (h : ¬ mark <:+: part ++ mark.dropLast)
    (rest : List Char) : segments mark (part ++ (mark ++ rest)) = part :: segments mark rest := by
  induction part with
  | nil => exact segments_mark hmark rest
  | cons c part ih =>
    have hpart : ¬ mark <:+: part ++ mark.dropLast := fun hoccurs => h (List.infix_cons hoccurs)
    obtain ⟨segment, others, hbehind, hwhole⟩ :=
      segments_cons hmark (not_prefix_of_unmarked h rest)
    rw [ih hpart] at hbehind
    obtain ⟨rfl, rfl⟩ := List.cons.inj hbehind
    exact hwhole

private theorem segments_of_not_infix (hmark : mark ≠ []) (h : ¬ mark <:+: part) :
    segments mark part = [part] := by
  induction part with
  | nil => exact segments_nil hmark
  | cons c part ih =>
    rw [List.infix_cons_iff, not_or] at h
    obtain ⟨segment, others, hbehind, hwhole⟩ := segments_cons hmark h.1
    rw [ih h.2] at hbehind
    obtain ⟨rfl, rfl⟩ := List.cons.inj hbehind
    exact hwhole

private theorem PartsAt.segments_eq (hmark : mark ≠ []) (h : PartsAt mark parts) :
    segments mark (mark.intercalate parts) = parts := by
  induction h with
  | last unmarked =>
    rw [List.intercalate_singleton]
    exact segments_of_not_infix hmark unmarked
  | cons unmarked behind ih =>
    rw [List.intercalate_cons_of_ne_nil behind.ne_nil, List.append_assoc,
      segments_append hmark unmarked, ih]

private theorem partsAt_segments (hmark : mark ≠ []) (text : List Char) :
    PartsAt mark (segments mark text) := by
  induction text using mark_induction hmark with
  | nil =>
    rw [segments_nil hmark]
    exact .last (by simpa using hmark)
  | occurrence rest ih =>
    rw [segments_mark hmark]
    exact .cons (not_infix_dropLast hmark) ih
  | char c rest hc ih =>
    have hjoined := intercalate_segments hmark rest
    obtain ⟨segment, others, hrest, hwhole⟩ := segments_cons hmark hc
    rw [hrest] at ih hjoined
    rw [hwhole]
    cases ih with
    | last unmarked =>
      rw [List.intercalate_singleton] at hjoined
      subst hjoined
      exact .last (by simp [List.infix_cons_iff, hc, unmarked])
    | cons unmarked behind =>
      rw [List.intercalate_cons_of_ne_nil behind.ne_nil, List.append_assoc] at hjoined
      refine .cons ?_ behind
      rw [List.cons_append, List.infix_cons_iff, not_or]
      refine ⟨?_, unmarked⟩
      intro hoccurs
      apply hc
      rw [← hjoined]
      exact hoccurs.trans (dropLast_prefix_append (c :: segment) mark _)

end Parts

section Repair

private theorem endsCut_append {word : List Char} (hword : ' ' ∉ word) (front : List Char) :
    EndsCut (front ++ ' ' :: word) ↔ word.head? = some '&' ∧ word.getLast? ≠ some ';' := by
  constructor
  · intro ⟨front', word', heq, hword', hcut⟩
    rwa [(append_last_inj hword hword' heq).2]
  · intro hcut
    exact ⟨front, word, rfl, hword, hcut⟩

private theorem repairSegment_eq_self (h : ¬ EndsCut segment) :
    repairSegment segment = segment := by
  by_cases hspace : ' ' ∈ segment
  · obtain ⟨front, word, rfl, hword⟩ := exists_last_of_mem hspace
    rw [endsCut_append hword] at h
    rw [repairSegment_append hword, if_neg h]
  · exact repairSegment_of_not_mem hspace

private theorem not_endsCut_repairSegment (segment : List Char) :
    ¬ EndsCut (repairSegment segment) := by
  induction hlength : segment.length using Nat.strong_induction_on generalizing segment with
  | _ n ih =>
    by_cases hspace : ' ' ∈ segment
    · obtain ⟨front, word, rfl, hword⟩ := exists_last_of_mem hspace
      rw [repairSegment_append hword]
      split
      · refine ih front.length ?_ front rfl
        rw [← hlength, List.length_append, List.length_cons]
        omega
      · rename_i hwhole
        rwa [endsCut_append hword]
    · rw [repairSegment_of_not_mem hspace]
      intro ⟨front, word, heq, _⟩
      exact hspace (heq ▸ by simp)

private theorem prefix_repairSegment (segment : List Char) : repairSegment segment <+: segment := by
  obtain ⟨words, -, hwords⟩ := repairSegment_words segment
  exact ⟨_, hwords.symm⟩

private theorem repairSegment_append_space (h : repairSegment segment ≠ segment) :
    repairSegment segment ++ [' '] <+: segment := by
  obtain ⟨words, -, hwords⟩ := repairSegment_words segment
  cases words with
  | nil => exact absurd (by simpa using hwords.symm) h
  | cons word others =>
    refine ⟨'&' :: (word ++ others.flatMap fun w => ' ' :: '&' :: w), ?_⟩
    simpa using hwords.symm

private theorem not_infix_repairSegment (hoverlap : OverlapsInSpace mark) (hmark : mark ≠ [])
    (h : ¬ mark <:+: segment ++ mark.dropLast) :
    ¬ mark <:+: repairSegment segment ++ mark.dropLast := by
  by_cases hkept : repairSegment segment = segment
  · rwa [hkept]
  have hsegment : ¬ mark <:+: segment := fun hoccurs => h (hoccurs.trans List.infix_append_left)
  intro hoccurs
  rcases List.infix_append_iff_ne_nil.mp hoccurs with hfront | hbehind | hacross
  · exact hsegment (hfront.trans (prefix_repairSegment segment).isInfix)
  · exact not_infix_dropLast hmark hbehind
  · obtain ⟨left, border, hleft, hborder, hwhole, hends, hbegins⟩ := hacross
    have hfirst : border <+: mark := hbegins.trans (List.dropLast_prefix mark)
    have hne : border ≠ mark := by
      intro hsame
      apply not_infix_dropLast hmark
      rw [hsame] at hbegins
      exact hbegins.isInfix
    have hspace : border = [' '] :=
      hoverlap border ((List.mem_inits _ _).mpr hfirst) hborder hne ⟨left, hwhole.symm⟩
    -- the kept part ends in all of the mark but a space, which stood behind it
    apply hsegment
    obtain ⟨front, hfront⟩ := hends
    refine List.IsInfix.trans ⟨front, [], ?_⟩ (repairSegment_append_space hkept).isInfix
    rw [← hfront, hwhole, hspace]
    simp

private theorem PartsAt.repair (hoverlap : OverlapsInSpace mark) (hmark : mark ≠ [])
    (h : PartsAt mark parts) : PartsAt mark (parts.map repairSegment) := by
  induction h with
  | @last part unmarked =>
    exact .last fun hoccurs => unmarked (hoccurs.trans (prefix_repairSegment part).isInfix)
  | cons unmarked behind ih => exact .cons (not_infix_repairSegment hoverlap hmark unmarked) ih

theorem segments_repairText (hoverlap : OverlapsInSpace mark) (text : List Char) :
    segments mark (repairText mark text) = (segments mark text).map repairSegment := by
  by_cases hmark : mark = []
  · subst hmark
    simp [repairText, segments]
  · exact ((partsAt_segments hmark text).repair hoverlap hmark).segments_eq hmark

end Repair

/-- Repairing a text again changes nothing. A repaired text has as many segments as it had before.
Each of them is a beginning of the segment before, and all of it if that did not end in a cut
reference. After the repair no segment ends in one. -/
theorem repairText_segments {separator : List Char} (hoverlap : OverlapsInSpace separator)
    (text : List Char) :
    repairText separator (repairText separator text) = repairText separator text ∧
      List.Forall₂ (fun kept segment => kept <+: segment ∧ (¬ EndsCut segment → kept = segment))
        (segments separator (repairText separator text)) (segments separator text) ∧
      ∀ segment ∈ segments separator (repairText separator text), ¬ EndsCut segment := by
  have hsegments := segments_repairText hoverlap text
  refine ⟨?_, ?_, ?_⟩
  · have hagain : ∀ segment ∈ segments separator text,
        repairSegment (repairSegment segment) = repairSegment segment :=
      fun segment _ => repairSegment_eq_self (not_endsCut_repairSegment segment)
    rw [repairText, hsegments, List.map_map, repairText]
    exact congrArg _ (List.map_congr_left hagain)
  · rw [hsegments, List.forall₂_map_left_iff, List.forall₂_same]
    exact fun segment _ => ⟨prefix_repairSegment segment, repairSegment_eq_self⟩
  · rw [hsegments]
    intro segment hsegment
    obtain ⟨before, -, rfl⟩ := List.mem_map.mp hsegment
    exact not_endsCut_repairSegment before

theorem repairText_segments_chips :
    let text := "fish &x &am ... &b ... ... chips &amp; &".toList
    let repaired := "fish ... &b ... ... chips &amp;".toList
    OverlapsInSpace ellipsis ∧
      repairText ellipsis text = repaired ∧ repairText ellipsis repaired = repaired ∧
      segments ellipsis text =
        ["fish &x &am".toList, "&b".toList, "... chips &amp; &".toList] ∧
      segments ellipsis repaired = ["fish".toList, "&b".toList, "... chips &amp;".toList] ∧
      ∀ segment ∈ segments ellipsis repaired, ¬ EndsCut segment := by
  intro text repaired
  have hoverlap : OverlapsInSpace ellipsis := by decide
  have htext : segments ellipsis text =
      ["fish &x &am".toList, "&b".toList, "... chips &amp; &".toList] := by
    simp only [text]
    cbv
  have hrepaired : repairText ellipsis text = repaired := by
    rw [repairText, htext]
    simp only [repaired]
    cbv
  have hsegments := repairText_segments hoverlap text
  rw [hrepaired] at hsegments
  refine ⟨hoverlap, hrepaired, hsegments.1, htext, ?_, hsegments.2.2⟩
  simp only [repaired]
  cbv

end PagedSearch
