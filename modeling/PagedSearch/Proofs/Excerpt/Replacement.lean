import Mathlib.Data.List.Infix
import PagedSearch.Excerpt.Cut

/-!
# Replacing a mark

Occurrences of a mark are replaced from the left. What is replaced on one side of a text does not
depend on the other side if the mark cannot run into that text and cannot begin in it.
-/

namespace PagedSearch

variable {mark text : List Char}

theorem segments_ne_nil (mark text : List Char) : segments mark text ≠ [] := by
  cases mark with
  | nil => simp [segments]
  | cons first more =>
    rw [segments]
    unfold splitAtText
    split
    · simp
    · split
      · simp
      · split <;> simp

theorem segments_nil (hmark : mark ≠ []) : segments mark [] = [[]] := by
  cases mark with
  | nil => exact absurd rfl hmark
  | cons first more => simp [segments, splitAtText]

theorem segments_mark (hmark : mark ≠ []) (text : List Char) :
    segments mark (mark ++ text) = [] :: segments mark text := by
  cases mark with
  | nil => exact absurd rfl hmark
  | cons first more =>
    have hseparator : (first :: more).isPrefixOf (first :: (more ++ text)) = true := by simp
    simp only [segments]
    rw [List.cons_append, splitAtText, if_pos hseparator, List.drop_left]

theorem segments_cons {c : Char} (hmark : mark ≠ []) (hc : ¬ mark <+: c :: text) :
    ∃ segment others, segments mark text = segment :: others ∧
      segments mark (c :: text) = (c :: segment) :: others := by
  obtain ⟨segment, others, hsegments⟩ := List.exists_cons_of_ne_nil (segments_ne_nil mark text)
  refine ⟨segment, others, hsegments, ?_⟩
  cases mark with
  | nil => exact absurd rfl hmark
  | cons first more =>
    have hseparator : ¬ (first :: more).isPrefixOf (c :: text) = true := by
      rwa [List.isPrefixOf_iff_prefix]
    simp only [segments] at hsegments ⊢
    rw [splitAtText, if_neg hseparator, hsegments]

section

variable (replacement : List Char)

@[simp]
theorem replaceText_nil (hmark : mark ≠ []) : replaceText mark replacement [] = [] := by
  simp [replaceText, segments_nil hmark]

theorem replaceText_mark (hmark : mark ≠ []) (text : List Char) :
    replaceText mark replacement (mark ++ text) =
      replacement ++ replaceText mark replacement text := by
  have hbehind := segments_ne_nil mark text
  rw [replaceText, segments_mark hmark, List.intercalate_cons_of_ne_nil hbehind]
  rfl

private theorem replaceText_cons {c : Char} (hmark : mark ≠ []) (hc : ¬ mark <+: c :: text) :
    replaceText mark replacement (c :: text) = c :: replaceText mark replacement text := by
  obtain ⟨segment, others, hrest, hwhole⟩ := segments_cons hmark hc
  rw [replaceText, replaceText, hrest, hwhole]
  exact List.intercalate_cons_cons_left

theorem replaceText_eq_self (hmark : mark ≠ []) (htext : ¬ mark <:+: text) :
    replaceText mark replacement text = text := by
  induction text with
  | nil => exact replaceText_nil replacement hmark
  | cons c rest ih =>
    rw [List.infix_cons_iff, not_or] at htext
    rw [replaceText_cons replacement hmark htext.1, ih htext.2]

end

/-- A text is read from the left: an occurrence of the mark is passed as a whole, any other
character by itself. -/
theorem mark_induction {motive : List Char → Prop} (hmark : mark ≠ []) (nil : motive [])
    (occurrence : ∀ rest, motive rest → motive (mark ++ rest))
    (char : ∀ c rest, ¬ mark <+: c :: rest → motive rest → motive (c :: rest))
    (text : List Char) : motive text := by
  induction hlength : text.length using Nat.strong_induction_on generalizing text with
  | _ n ih =>
    by_cases hoccurs : mark <+: text
    · obtain ⟨rest, rfl⟩ := hoccurs
      have hshorter : rest.length < n := by
        have := List.length_pos_of_ne_nil hmark
        rw [← hlength, List.length_append]
        omega
      exact occurrence rest (ih rest.length hshorter rest rfl)
    · cases text with
      | nil => exact nil
      | cons c rest =>
        have hshorter : rest.length < n := by simp [← hlength]
        exact char c rest hoccurs (ih rest.length hshorter rest rfl)

theorem intercalate_segments (hmark : mark ≠ []) (text : List Char) :
    mark.intercalate (segments mark text) = text := by
  change replaceText mark mark text = text
  induction text using mark_induction hmark with
  | nil => exact replaceText_nil mark hmark
  | occurrence rest ih => rw [replaceText_mark mark hmark, ih]
  | char c rest hc ih => rw [replaceText_cons mark hmark hc, ih]

/-- No occurrence of the mark begins within the text, whatever follows. -/
def BeginsNowhere (mark text : List Char) : Prop :=
  ∀ s ∈ text.tails, s ≠ [] → ¬ s <+: mark ∧ ¬ mark <+: s

/-- No occurrence of the mark that begins before the text runs into it, whatever stands before. -/
def EntersNowhere (mark text : List Char) : Prop :=
  ∀ s ∈ mark.tail.tails, s ≠ [] → ¬ s <+: text ∧ ¬ text <+: s

instance (mark text : List Char) : Decidable (BeginsNowhere mark text) :=
  inferInstanceAs (Decidable (∀ s ∈ text.tails, s ≠ [] → ¬ s <+: mark ∧ ¬ mark <+: s))

instance (mark text : List Char) : Decidable (EntersNowhere mark text) :=
  inferInstanceAs (Decidable (∀ s ∈ mark.tail.tails, s ≠ [] → ¬ s <+: text ∧ ¬ text <+: s))

theorem beginsNowhere_of_not_mem {first : Char} {more text : List Char} (hfirst : first ∉ text) :
    BeginsNowhere (first :: more) text := by
  intro s hs hne
  obtain ⟨c, rest, rfl⟩ := List.exists_cons_of_ne_nil hne
  have hc : c ∈ text := ((List.mem_tails _ _).mp hs).subset List.mem_cons_self
  constructor
  · intro h
    obtain ⟨rfl, -⟩ := List.cons_prefix_cons.mp h
    exact hfirst hc
  · intro h
    obtain ⟨rfl, -⟩ := List.cons_prefix_cons.mp h
    exact hfirst hc

theorem beginsNowhere_of_ne {first : Char} {more others : List Char}
    (hlength : others.length = more.length) (hne : others ≠ more) (hfirst : first ∉ others) :
    BeginsNowhere (first :: more) (first :: others) := by
  intro s hs hnil
  rw [List.tails, List.mem_cons] at hs
  rcases hs with rfl | hs
  · rw [List.cons_prefix_cons, List.cons_prefix_cons]
    exact ⟨fun h => hne (h.2.eq_of_length hlength),
      fun h => hne (h.2.eq_of_length hlength.symm).symm⟩
  · exact beginsNowhere_of_not_mem hfirst s hs hnil

theorem replaceText_append_of_beginsNowhere (replacement : List Char) (hmark : mark ≠ [])
    {text : List Char} (htext : BeginsNowhere mark text) (rest : List Char) :
    replaceText mark replacement (text ++ rest) =
      text ++ replaceText mark replacement rest := by
  induction text with
  | nil => rfl
  | cons c tail ih =>
    have hsmaller : BeginsNowhere mark tail := fun s hs => htext s (by simp_all)
    have hwhole := htext (c :: tail) (by simp) (by simp)
    have hc : ¬ mark <+: c :: (tail ++ rest) := by
      intro hoccurs
      have hboth : c :: tail <+: c :: (tail ++ rest) := ⟨rest, by simp⟩
      rcases List.prefix_or_prefix_of_prefix hoccurs hboth with h | h
      · exact hwhole.2 h
      · exact hwhole.1 h
    rw [List.cons_append, replaceText_cons replacement hmark hc, ih hsmaller, List.cons_append]

theorem replaceText_append_of_entersNowhere (replacement : List Char) (hmark : mark ≠ [])
    {text : List Char} (htext : EntersNowhere mark text) (before rest : List Char) :
    replaceText mark replacement (before ++ (text ++ rest)) =
      replaceText mark replacement before ++ replaceText mark replacement (text ++ rest) := by
  induction before using mark_induction hmark with
  | nil => rw [List.nil_append, replaceText_nil replacement hmark, List.nil_append]
  | occurrence tail ih =>
    rw [List.append_assoc, replaceText_mark replacement hmark, replaceText_mark replacement hmark,
      ih, List.append_assoc]
  | char c tail hc ih =>
    have hacross : ¬ mark <+: c :: (tail ++ (text ++ rest)) := by
      intro hoccurs
      have hboth : c :: tail <+: c :: (tail ++ (text ++ rest)) := ⟨text ++ rest, by simp⟩
      rcases List.prefix_or_prefix_of_prefix hoccurs hboth with h | h
      · exact hc h
      · -- The mark ends in a part of its own that meets the text.
        obtain ⟨s, rfl⟩ := h
        have hs : s ≠ [] := by
          rintro rfl
          simp at hc
        have hpart : s ∈ (c :: tail ++ s).tail.tails := by simp
        have hmeets : s <+: text ++ rest := by simpa using hoccurs
        rcases List.prefix_or_prefix_of_prefix hmeets (List.prefix_append text rest) with h | h
        · exact (htext s hpart hs).1 h
        · exact (htext s hpart hs).2 h
    rw [List.cons_append, replaceText_cons replacement hmark hacross, ih,
      replaceText_cons replacement hmark hc, List.cons_append]

def replacePart (mark replacement part : List Char) : List Char :=
  if part = mark then replacement else part

/-- Where a text is made of parts, each of them the mark or without a beginning of it, the parts
that are the mark are replaced and no others. -/
theorem replaceText_flatMap {α : Type} {f : α → List Char} (replacement : List Char)
    (hmark : mark ≠ []) (hparts : ∀ a, f a = mark ∨ BeginsNowhere mark (f a)) (as : List α) :
    replaceText mark replacement (as.flatMap f) =
      as.flatMap fun a => replacePart mark replacement (f a) := by
  induction as with
  | nil => exact replaceText_nil replacement hmark
  | cons a rest ih =>
    rw [List.flatMap_cons, List.flatMap_cons, ← ih, replacePart]
    by_cases ha : f a = mark
    · rw [if_pos ha, ha, replaceText_mark replacement hmark]
    · rw [if_neg ha, replaceText_append_of_beginsNowhere replacement hmark
        ((hparts a).resolve_left ha)]

end PagedSearch
