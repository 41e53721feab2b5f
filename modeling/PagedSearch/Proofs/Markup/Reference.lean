import PagedSearch.Markup.Escape
import PagedSearch.Proofs.Text.Split

/-! # Reading references -/

namespace PagedSearch

def unescapeText : List Char → List Char
  | '&' :: 'a' :: 'm' :: 'p' :: ';' :: rest => '&' :: unescapeText rest
  | '&' :: 'l' :: 't' :: ';' :: rest => '<' :: unescapeText rest
  | '&' :: 'g' :: 't' :: ';' :: rest => '>' :: unescapeText rest
  | '&' :: 'a' :: 'p' :: 'o' :: 's' :: ';' :: rest => '\'' :: unescapeText rest
  | '&' :: 'q' :: 'u' :: 'o' :: 't' :: ';' :: rest => '"' :: unescapeText rest
  | c :: rest => c :: unescapeText rest
  | [] => []

def references : List (List Char) :=
  ["&amp;".toList, "&lt;".toList, "&gt;".toList, "&apos;".toList, "&quot;".toList]

theorem escapeMarkup_cases (c : Char) :
    escapeMarkup c = [c] ∧ c ≠ '&' ∨
      ∃ name, escapeMarkup c = '&' :: name ∧ '&' :: name ∈ references ∧ '&' ∉ name := by
  unfold escapeMarkup
  split
  case h_6 hampersand _ _ _ _ => exact .inl ⟨rfl, hampersand⟩
  all_goals exact .inr ⟨_, rfl, by simp [references], by simp⟩

private theorem unescapeText_cons {c : Char} (h : c ≠ '&') (rest : List Char) :
    unescapeText (c :: rest) = c :: unescapeText rest := by
  rw [unescapeText.eq_def]
  split <;> simp_all

private theorem unescapeText_escapeMarkup (c : Char) (rest : List Char) :
    unescapeText (escapeMarkup c ++ rest) = c :: unescapeText rest := by
  unfold escapeMarkup
  split
  case h_6 hampersand _ _ _ _ => exact unescapeText_cons hampersand rest
  all_goals rfl

theorem unescapeText_escapeText_append (text rest : List Char) :
    unescapeText (escapeText text ++ rest) = text ++ unescapeText rest := by
  induction text with
  | nil => rfl
  | cons c text ih =>
    have hcons : escapeText (c :: text) = escapeMarkup c ++ escapeText text := List.flatMap_cons
    rw [hcons, List.append_assoc, unescapeText_escapeMarkup, ih, List.cons_append]

theorem unescapeText_escapeText (text : List Char) : unescapeText (escapeText text) = text := by
  simpa [unescapeText] using unescapeText_escapeText_append text []

theorem escapeText_injective : Function.Injective escapeText :=
  Function.LeftInverse.injective unescapeText_escapeText

theorem reserved_not_mem_escapeText {c : Char} (hc : c ∈ ['<', '>', '\'', '"']) (text : List Char) :
    c ∉ escapeText text := by
  intro h
  obtain ⟨d, -, hd⟩ := List.mem_flatMap.mp h
  simp only [List.mem_cons, List.not_mem_nil, or_false] at hc
  unfold escapeMarkup at hd
  split at hd
  case h_6 =>
    rw [List.mem_singleton.mp hd] at hc
    simp_all
  all_goals rcases hc with rfl | rfl | rfl | rfl <;> simp at hd

theorem exists_reference {text rest u v : List Char} (hrest : '&' ∉ rest)
    (h : escapeText text ++ rest = u ++ '&' :: v) : ∃ r ∈ references, r <+: '&' :: v := by
  induction text generalizing u with
  | nil =>
    rw [escapeText, List.flatMap_nil, List.nil_append] at h
    exact absurd (h ▸ by simp) hrest
  | cons c text ih =>
    rw [escapeText, List.flatMap_cons, List.append_assoc] at h
    rcases escapeMarkup_cases c with ⟨hself, hc⟩ | ⟨name, hname, hmem, hinside⟩
    · rw [hself, List.singleton_append] at h
      cases u with
      | nil => exact absurd (List.cons.inj h).1 hc
      | cons d u => exact ih (List.cons.inj h).2
    · rw [hname, List.cons_append] at h
      cases u with
      | nil => exact ⟨_, hmem, _, h⟩
      | cons d u =>
        rcases append_eq_append_cons (List.cons.inj h).2 with ⟨w, -, hbehind⟩ | ⟨w, hwithin⟩
        · exact ih hbehind
        · exact absurd (hwithin ▸ by simp) hinside

end PagedSearch
