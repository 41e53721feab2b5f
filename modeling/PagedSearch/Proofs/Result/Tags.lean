import PagedSearch.Result.OfPage
import PagedSearch.Proofs.Excerpt.Replacement
import PagedSearch.Proofs.Markup.Reference

/-!
# From marks to tags

Text is escaped before the marks in it are replaced, so a text without marks brings no markup with
it. Every match between marks becomes a match between tags if the opening tag leaves the closing
marks as they are.
-/

namespace PagedSearch

def referenceChars : List Char := ['&', 'a', 'm', 'p', ';', 'l', 't', 'g', 'o', 's', 'q', 'u']

theorem mem_referenceChars {r : List Char} (hr : r ∈ references) : ∀ c ∈ r, c ∈ referenceChars := by
  have hall : ∀ r ∈ references, ∀ c ∈ r, c ∈ referenceChars := by decide
  exact hall r hr

@[simp]
theorem escapeText_append (u v : List Char) : escapeText (u ++ v) = escapeText u ++ escapeText v :=
  List.flatMap_append

theorem not_mem_escapeText (text : List Char) : '<' ∉ escapeText text :=
  reserved_not_mem_escapeText (by decide) text

section Unmarked

variable {p text : List Char}

private theorem prefix_of_prefix_escapeText (hp : ∀ c ∈ p, c ∉ referenceChars)
    (h : p <+: escapeText text) : p <+: text := by
  induction p generalizing text with
  | nil => exact List.nil_prefix
  | cons c q ih =>
    cases text with
    | nil => simp [escapeText] at h
    | cons d rest =>
      rw [escapeText, List.flatMap_cons] at h
      rcases escapeMarkup_cases d with ⟨hd, -⟩ | ⟨name, hd, hreference, -⟩
      · rw [hd, List.singleton_append, List.cons_prefix_cons] at h
        obtain ⟨rfl, hq⟩ := h
        have hrest := ih (fun e he => hp e (List.mem_cons_of_mem c he)) hq
        exact List.cons_prefix_cons.mpr ⟨rfl, hrest⟩
      · rw [hd, List.cons_append, List.cons_prefix_cons] at h
        obtain ⟨rfl, -⟩ := h
        exact absurd (mem_referenceChars hreference _ List.mem_cons_self)
          (hp _ List.mem_cons_self)

private theorem infix_of_infix_append {w rest : List Char} (hp : p ≠ []) (hw : ∀ c ∈ w, c ∉ p)
    (h : p <:+: w ++ rest) : p <:+: rest := by
  induction w with
  | nil => exact h
  | cons c w ih =>
    obtain ⟨hc, hothers⟩ := List.forall_mem_cons.mp hw
    rcases List.infix_cons_iff.mp h with hfirst | hlater
    · obtain ⟨d, q, rfl⟩ := List.exists_cons_of_ne_nil hp
      obtain ⟨rfl, -⟩ := List.cons_prefix_cons.mp hfirst
      exact absurd List.mem_cons_self hc
    · exact ih hothers hlater

private theorem infix_of_infix_escapeText (hp : p ≠ []) (hinert : ∀ c ∈ p, c ∉ referenceChars)
    (h : p <:+: escapeText text) : p <:+: text := by
  induction text with
  | nil => exact h
  | cons d rest ih =>
    rcases escapeMarkup_cases d with ⟨hd, -⟩ | ⟨name, hd, hreference, -⟩
    · have hwhole : escapeText (d :: rest) = d :: escapeText rest := by
        rw [escapeText, List.flatMap_cons, hd, List.singleton_append, escapeText]
      rw [hwhole] at h
      rcases List.infix_cons_iff.mp h with hfirst | hlater
      · exact (prefix_of_prefix_escapeText hinert (hwhole ▸ hfirst)).isInfix
      · exact List.infix_cons (ih hlater)
    · rw [escapeText, List.flatMap_cons, hd] at h
      have hdisjoint : ∀ c ∈ '&' :: name, c ∉ p := fun c hc hcp =>
        hinert c hcp (mem_referenceChars hreference c hc)
      exact List.infix_cons (ih (infix_of_infix_append hp hdisjoint h))

end Unmarked

/-- No closing mark begins within the opening tag or runs into it. -/
def TagPair.SparesMark (tags : TagPair) : Prop :=
  BeginsNowhere TagPair.marks.after.toList tags.before.toList ∧
    EntersNowhere TagPair.marks.after.toList tags.before.toList

instance (tags : TagPair) : Decidable tags.SparesMark :=
  inferInstanceAs (Decidable (_ ∧ _))

example : TagPair.standard.SparesMark := by decide +kernel

theorem TagPair.SparesMark.around_ne_nil {tags : TagPair} (htags : tags.SparesMark)
    (text : List Char) : tags.around text ≠ [] := by
  intro h
  have hbefore : tags.before.toList = [] := by
    rw [around, List.append_assoc] at h
    exact (List.append_eq_nil_iff.mp h).1
  have hlast := htags.2 ['D'] (by decide) (by simp)
  simp [hbefore] at hlast

theorem escapeText_around (y : List Char) :
    escapeText (TagPair.marks.around y) = TagPair.marks.around (escapeText y) := by
  have hbefore : escapeText TagPair.marks.before.toList = TagPair.marks.before.toList := by decide
  have hafter : escapeText TagPair.marks.after.toList = TagPair.marks.after.toList := by decide
  simp only [TagPair.around, escapeText_append, hbefore, hafter]

namespace Request

variable {request : Request}

theorem insertTags_around (htags : request.tags.SparesMark) {y : List Char} (hy : '!' ∉ y)
    (u v : List Char) :
    request.insertTags (u ++ (TagPair.marks.around y ++ v)) =
      request.insertTags u ++ (request.tags.around y ++ request.insertTags v) := by
  obtain ⟨hbegins, henters⟩ := htags
  have hopen : TagPair.marks.before.toList ≠ [] := by decide
  have hclose : TagPair.marks.after.toList ≠ [] := by decide
  have hitself : EntersNowhere TagPair.marks.before.toList TagPair.marks.before.toList := by
    decide +kernel
  have hother : BeginsNowhere TagPair.marks.before.toList TagPair.marks.after.toList := by
    decide +kernel
  have hyOpen : BeginsNowhere TagPair.marks.before.toList y := beginsNowhere_of_not_mem hy
  have hyClose : BeginsNowhere TagPair.marks.after.toList y := beginsNowhere_of_not_mem hy
  simp only [insertTags, TagPair.around, List.append_assoc]
  rw [replaceText_append_of_entersNowhere _ hopen hitself, replaceText_mark _ hopen,
    replaceText_append_of_beginsNowhere _ hopen hyOpen,
    replaceText_append_of_beginsNowhere _ hopen hother,
    replaceText_append_of_entersNowhere _ hclose henters,
    replaceText_append_of_beginsNowhere _ hclose hbegins,
    replaceText_append_of_beginsNowhere _ hclose hyClose, replaceText_mark _ hclose]

theorem insertTags_escapeText {text : List Char}
    (hbefore : ¬ TagPair.marks.before.toList <:+: text)
    (hafter : ¬ TagPair.marks.after.toList <:+: text) :
    request.insertTags (escapeText text) = escapeText text := by
  have hopen : TagPair.marks.before.toList ≠ [] := by decide
  have hclose : TagPair.marks.after.toList ≠ [] := by decide
  have hinertOpen : ∀ c ∈ TagPair.marks.before.toList, c ∉ referenceChars := by
    have hall : TagPair.marks.before.toList.all (· ∉ referenceChars) = true := by decide
    simpa only [List.all_eq_true, decide_eq_true_eq] using hall
  have hinertClose : ∀ c ∈ TagPair.marks.after.toList, c ∉ referenceChars := by
    have hall : TagPair.marks.after.toList.all (· ∉ referenceChars) = true := by decide
    simpa only [List.all_eq_true, decide_eq_true_eq] using hall
  rw [insertTags,
    replaceText_eq_self _ hopen fun h => hbefore (infix_of_infix_escapeText hopen hinertOpen h),
    replaceText_eq_self _ hclose fun h => hafter (infix_of_infix_escapeText hclose hinertClose h)]

end Request

end PagedSearch
