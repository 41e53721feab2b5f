import PagedSearch.Proofs.Result.Snippet

/-!
# Plain contents

Without a snippet a field shows its value or an excerpt of it, escaped. An excerpt is cut before the
last ampersand if that stands in the window at the end of the limit. One ampersand is dropped at
most, so another one that stands in the window stays.
-/

namespace PagedSearch

section Cut

variable {text before after : List Char} {limit : Nat}

private theorem lastAmpersand?_of_not_mem (h : '&' ∉ text) : lastAmpersand? text = none := by
  have hrest := @dropWhile_ne_of_not_mem _ _ '&' text.reverse (by simpa using h)
  rw [lastAmpersand?, hrest]

private theorem lastAmpersand?_append (h : '&' ∉ after) (before : List Char) :
    lastAmpersand? (before ++ '&' :: after) = some before.length := by
  have hreverse : (before ++ '&' :: after).reverse = after.reverse ++ '&' :: before.reverse := by
    simp
  rw [lastAmpersand?, hreverse, dropWhile_ne_append (by simpa using h)]
  simp

private theorem le_of_getElem?_ampersand (h : '&' ∉ after) {i : Nat}
    (hi : (before ++ '&' :: after)[i]? = some '&') : i ≤ before.length := by
  by_contra hlater
  rw [List.getElem?_append_right (by omega)] at hi
  obtain ⟨k, hk⟩ : ∃ k, i - before.length = k + 1 :=
    ⟨i - before.length - 1, by omega⟩
  rw [hk, List.getElem?_cons_succ] at hi
  exact h (List.mem_of_getElem? hi)

theorem cutText_cases (limit : Nat) (text : List Char) :
    (cutText limit text = text.take limit ∧
      ∀ i, (text.take limit)[i]? = some '&' → i + referenceWindow ≤ limit) ∨
    ∃ after, text.take limit = cutText limit text ++ '&' :: after ∧ '&' ∉ after ∧
      limit < (cutText limit text).length + referenceWindow := by
  by_cases hmem : '&' ∈ text.take limit
  · obtain ⟨before, after, hsplit, hafter⟩ := exists_last_of_mem hmem
    rw [cutText, hsplit, lastAmpersand?_append hafter]
    dsimp only
    by_cases hwindow : limit < before.length + referenceWindow
    · rw [if_pos hwindow, List.take_left]
      exact .inr ⟨after, rfl, hafter, hwindow⟩
    · rw [if_neg hwindow]
      refine .inl ⟨rfl, ?_⟩
      intro i hi
      have hle := le_of_getElem?_ampersand hafter hi
      omega
  · rw [cutText, lastAmpersand?_of_not_mem hmem]
    exact .inl ⟨rfl, fun i hi => absurd (List.mem_of_getElem? hi) hmem⟩

/-- No ampersand is left in the window at the end of the limit if and only if the text has at most
one there. -/
theorem cutText_spares_window_iff (limit : Nat) (text : List Char) :
    (∀ i, limit < i + referenceWindow → (cutText limit text)[i]? ≠ some '&') ↔
      ∀ i j, limit < i + referenceWindow → i < j → j < limit →
        text[i]? = some '&' → text[j]? ≠ some '&' := by
  have htake {i : Nat} (hi : i < limit) : (text.take limit)[i]? = text[i]? :=
    List.getElem?_take_of_lt hi
  rcases cutText_cases limit text with ⟨hwhole, hfree⟩ | ⟨after, hcut, hafter, hwindow⟩
  · rw [hwhole]
    constructor
    · intro h i j hi hij hj hfirst
      exact absurd ((htake (by omega)).trans hfirst) (h i hi)
    · intro _ i hi hleft
      have := hfree i hleft
      omega
  · have hlength : (cutText limit text).length < limit := by
      have hall := congrArg List.length hcut
      rw [List.length_take, List.length_append, List.length_cons] at hall
      omega
    constructor
    · intro h i j hi hij hj hfirst hsecond
      rw [← htake hj, hcut] at hsecond
      have hkept := le_of_getElem?_ampersand hafter hsecond
      rw [← htake (by omega), hcut, List.getElem?_append_left (by omega)] at hfirst
      exact h i hi hfirst
    · intro h i hi hleft
      have hshort : i < (cutText limit text).length := (List.getElem?_eq_some_iff.mp hleft).1
      refine h i (cutText limit text).length hi hshort hlength ?_ ?_
      · rw [← htake (by omega), hcut, List.getElem?_append_left hshort, hleft]
      · rw [← htake hlength, hcut]
        simp

/-- Of two ampersands in the window the first one stays. -/
theorem first_ampersand_left :
    let text := "abcde&&klmnop".toList
    10 < text.length ∧ 10 < 5 + referenceWindow ∧ (cutText 10 text)[5]? = some '&' := by
  decide

private theorem exists_cutText (h : limit < text.length) :
    ∃ rest, text = cutText limit text ++ rest ∧ (cutText limit text).length ≤ limit ∧
      limit < (cutText limit text).length + referenceWindow ∧
      ((cutText limit text).length < limit → rest.head? = some '&') := by
  have hsplit := List.take_append_drop limit text
  have hlength : (text.take limit).length = limit := by
    rw [List.length_take]
    omega
  rcases cutText_cases limit text with ⟨hwhole, -⟩ | ⟨after, hcut, -, hwindow⟩
  · rw [hwhole, hlength]
    refine ⟨text.drop limit, hsplit.symm, le_rfl, ?_, fun hless => absurd hless (lt_irrefl limit)⟩
    exact Nat.lt_add_of_pos_right (by decide)
  · rw [hcut] at hsplit hlength
    rw [List.length_append] at hlength
    refine ⟨'&' :: after ++ text.drop limit, ?_, by omega, hwindow, fun _ => rfl⟩
    rw [← List.append_assoc, hsplit]

private theorem plainContent_of_length_le (h : limit = 0 ∨ text.length ≤ limit) :
    plainContent limit text = escapeText text := by
  rw [plainContent, if_neg]
  simp only [Bool.and_eq_true, decide_eq_true_eq]
  omega

private theorem plainContent_of_lt_length (hpos : 0 < limit) (h : limit < text.length) :
    plainContent limit text = escapeText (cutText limit text) ++ ellipsis := by
  simp [plainContent, hpos, h]

private theorem exists_plainContent (limit : Nat) (text : List Char) :
    ∃ part, ∃ ending ∈ [[], ellipsis], plainContent limit text = escapeText part ++ ending := by
  by_cases h : 0 < limit ∧ limit < text.length
  · exact ⟨cutText limit text, ellipsis, by simp, plainContent_of_lt_length h.1 h.2⟩
  · refine ⟨text, [], by simp, ?_⟩
    rw [plainContent_of_length_le (by omega), List.append_nil]

private theorem not_mem_plainContent {c : Char} (hc : c ∈ ['<', '>', '\'', '"']) :
    c ∉ plainContent limit text := by
  obtain ⟨part, ending, hending, hcontent⟩ := exists_plainContent limit text
  have hplain : ∀ c ∈ ['<', '>', '\'', '"'], ∀ ending ∈ [[], ellipsis], c ∉ ending := by decide
  rw [hcontent, List.mem_append, not_or]
  exact ⟨reserved_not_mem_escapeText hc part, hplain c hc ending hending⟩

private theorem exists_reference_of_plainContent
    (h : plainContent limit text = before ++ '&' :: after) :
    ∃ r ∈ references, r <+: '&' :: after := by
  obtain ⟨part, ending, hending, hcontent⟩ := exists_plainContent limit text
  have hplain : ∀ ending ∈ [[], ellipsis], '&' ∉ ending := by decide
  exact exists_reference (hplain ending hending) (hcontent.symm.trans h)

end Cut

namespace Request

variable {request : Request} {analyzer : Analyzer} {query : Query} {field : StoredField}

private theorem showField_of_snippets_eq_zero (h : request.snippets = 0) :
    request.showField analyzer query field = ⟨field.name, false,
      .ofList (plainContent request.lengthLimit field.value.display.toList)⟩ := by
  simp [showField, h]

/-- Without snippets a field shows its escaped value, if there is no limit or the value keeps to it,
and otherwise a first part of the value, escaped, with an ellipsis behind it. The part is shorter
than the limit only where an ampersand follows it, by seven characters at most. No markup character
is left but the ampersands of references, so what is shown can be read back. -/
theorem plain_content (hsnippets : request.snippets = 0) :
    let value := field.value.display.toList
    let shown := request.showField analyzer query field
    let content := shown.content.toList
    shown.name = field.name ∧ shown.isSnippet = false ∧
    (request.lengthLimit = 0 ∨ value.length ≤ request.lengthLimit →
      content = escapeText value ∧ unescapeText content = value) ∧
    (0 < request.lengthLimit → request.lengthLimit < value.length →
      ∃ part rest, value = part ++ rest ∧
        part.length ≤ request.lengthLimit ∧ request.lengthLimit ≤ part.length + 7 ∧
        (part.length < request.lengthLimit → rest.head? = some '&') ∧
        content = escapeText part ++ ellipsis ∧ unescapeText content = part ++ ellipsis) ∧
    (∀ c ∈ ['<', '>', '\'', '"'], c ∉ content) ∧
    ∀ before after, content = before ++ '&' :: after → ∃ r ∈ references, r <+: '&' :: after := by
  intro value shown content
  have hshown : shown = ⟨field.name, false, .ofList (plainContent request.lengthLimit value)⟩ :=
    showField_of_snippets_eq_zero hsnippets
  have hcontent : content = plainContent request.lengthLimit value := by
    simp [content, hshown]
  refine ⟨by rw [hshown], by rw [hshown], ?_, ?_, ?_, ?_⟩
  · intro hfits
    rw [hcontent, plainContent_of_length_le hfits]
    exact ⟨rfl, unescapeText_escapeText value⟩
  · intro hlimit hlong
    obtain ⟨rest, hvalue, hle, hwindow, hnext⟩ := exists_cutText hlong
    rw [hcontent, plainContent_of_lt_length hlimit hlong]
    refine ⟨_, rest, hvalue, hle, Nat.le_of_lt_succ hwindow, hnext, rfl, ?_⟩
    rw [unescapeText_escapeText_append]
    rfl
  · rw [hcontent]
    exact fun c hc => not_mem_plainContent hc
  · rw [hcontent]
    exact fun before after h => exists_reference_of_plainContent h

theorem plain_content_salt :
    let request := { boldRequest with snippets := 0, lengthLimit := 10 }
    let value := "salt <b> & pepper"
    let content := (request.showField .standard foxQuery ⟨"f", .text value⟩).content.toList
    request.snippets = 0 ∧ 0 < request.lengthLimit ∧ request.lengthLimit < value.toList.length ∧
      content = "salt &lt;b&gt;  ... ".toList ∧
      ∃ part rest, value.toList = part ++ rest ∧ part.length ≤ 10 ∧ 10 ≤ part.length + 7 ∧
        (part.length < 10 → rest.head? = some '&') ∧
        content = escapeText part ++ ellipsis ∧ unescapeText content = part ++ ellipsis := by
  intro request value content
  have hlimit : 0 < request.lengthLimit := by decide
  have hlong : request.lengthLimit < value.toList.length := by decide
  have hcontent : content = "salt &lt;b&gt;  ... ".toList := by
    simp only [content]
    rw [showField_of_snippets_eq_zero rfl]
    decide
  have hplain := @plain_content request .standard foxQuery ⟨"f", .text value⟩ rfl
  exact ⟨rfl, hlimit, hlong, hcontent, hplain.2.2.2.1 hlimit hlong⟩

end Request

end PagedSearch
