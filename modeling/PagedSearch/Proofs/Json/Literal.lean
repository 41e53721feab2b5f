import PagedSearch.Json.Value
import PagedSearch.Proofs.Number.Shortest
import PagedSearch.Proofs.Text.Split

/-! # Number literals -/

namespace PagedSearch

namespace JsonLiteral

def fractionText (l : JsonLiteral) : List Char :=
  match l.fraction with
  | [] => []
  | digits => '.' :: digits

def exponentText (l : JsonLiteral) : List Char :=
  match l.exponent with
  | [] => []
  | digits => 'e' :: (if l.exponentNegative then '-' else '+') :: digits

def text (l : JsonLiteral) : List Char :=
  (if l.negative then ['-'] else []) ++ (l.whole ++ (l.fractionText ++ l.exponentText))

/-- The parts are digits where there have to be some, and zero leads only alone. -/
structure IsPlain (l : JsonLiteral) : Prop where
  whole_ne_nil : l.whole ≠ []
  whole_digits : ∀ c ∈ l.whole, isDigit c = true
  leading : l.whole.head? = some '0' → l.whole.length = 1
  fraction_digits : ∀ c ∈ l.fraction, isDigit c = true
  exponent_digits : ∀ c ∈ l.exponent, isDigit c = true
  exponent_sign : l.exponent = [] → l.exponentNegative = false

variable {l : JsonLiteral}

theorem exponentText_of_ne_nil (h : l.exponent ≠ []) :
    l.exponentText = 'e' :: (if l.exponentNegative then '-' else '+') :: l.exponent := by
  unfold exponentText
  split
  · exact absurd ‹_› h
  · rfl

private theorem stops_exponentText (l : JsonLiteral) : Stops isDigit l.exponentText := by
  unfold exponentText
  split
  · exact .nil
  · exact .cons (by decide) _

private theorem stops_fractionText (l : JsonLiteral) :
    Stops isDigit (l.fractionText ++ l.exponentText) := by
  unfold fractionText
  split
  · exact l.stops_exponentText
  · exact .cons (by decide) _

private theorem IsPlain.exists_cons (h : l.IsPlain) :
    ∃ c rest, l.whole = c :: rest ∧ isDigit c = true := by
  obtain ⟨c, rest, hcons⟩ := List.exists_cons_of_ne_nil h.whole_ne_nil
  exact ⟨c, rest, hcons, h.whole_digits c (hcons ▸ List.mem_cons_self)⟩

private theorem readExponent?_text (h : l.IsPlain) :
    readExponent? l.exponentText = some (l.exponentNegative, l.exponent) := by
  unfold exponentText
  split
  · rename_i hnone
    rw [hnone, h.exponent_sign hnone]
    rfl
  · rename_i hsome
    have hall : l.exponent.all isDigit = true := List.all_eq_true.mpr h.exponent_digits
    have hne : l.exponent.isEmpty = false := by
      cases hexponent : l.exponent with
      | nil => exact absurd hexponent hsome
      | cons => rfl
    cases l.exponentNegative <;> simp [readExponent?, splitSign, hall, hne]

private theorem readFraction?_text (h : l.IsPlain) :
    readFraction? (l.fractionText ++ l.exponentText) = some (l.fraction, l.exponentText) := by
  have hstops := l.stops_exponentText
  unfold fractionText
  split
  · rename_i hnone
    rw [hnone, List.nil_append]
    unfold exponentText
    split
    · rfl
    · rfl
  · rename_i hsome
    rw [List.cons_append, readFraction?]
    simp only [takeWhile_append_of_stops h.fraction_digits hstops,
      dropWhile_append_of_stops h.fraction_digits hstops]
    rw [if_neg (by simpa using hsome)]

theorem read?_text (h : l.IsPlain) : read? l.text = some l := by
  obtain ⟨c, rest, hcons, hc⟩ := h.exists_cons
  have hstops := l.stops_fractionText
  have hguard : (l.whole.isEmpty ||
      l.whole.head? == some '0' && decide (l.whole.length ≠ 1)) = false := by
    simpa [h.whole_ne_nil] using h.leading
  have hdash : c ≠ '-' := by
    rintro rfl
    cases hc
  have hbody : l.whole ++ (l.fractionText ++ l.exponentText) =
      c :: (rest ++ (l.fractionText ++ l.exponentText)) := by
    rw [hcons, List.cons_append]
  have htake := takeWhile_append_of_stops h.whole_digits hstops
  have hdrop := dropWhile_append_of_stops h.whole_digits hstops
  unfold read? text
  cases hnegative : l.negative
  · simp only [Bool.false_eq_true, if_false, List.nil_append]
    split
    · rename_i heq
      exact absurd (List.cons.inj (hbody.symm.trans heq)).1 hdash
    · simp only [htake, hguard, hdrop, readFraction?_text h, readExponent?_text h,
        Bool.false_eq_true, if_false, Option.bind_eq_bind, Option.bind_some]
      rw [← hnegative]
      rfl
  · simp only [if_true, List.singleton_append, htake, hguard, hdrop, readFraction?_text h,
      readExponent?_text h, Bool.false_eq_true, if_false, Option.bind_eq_bind, Option.bind_some]
    rw [← hnegative]
    rfl

theorem isLiteralChar_of_mem_text (h : l.IsPlain) : ∀ c ∈ l.text, isLiteralChar c = true := by
  have hdigits {digits : List Char} (hall : ∀ c ∈ digits, isDigit c = true) :
      ∀ c ∈ digits, isLiteralChar c = true := by
    intro c hc
    simp [isLiteralChar, hall c hc]
  simp only [text, List.forall_mem_append]
  refine ⟨?_, hdigits h.whole_digits, ?_, ?_⟩
  · split <;> simp [isLiteralChar]
  · unfold fractionText
    split
    · nofun
    · exact List.forall_mem_cons.mpr ⟨by decide, hdigits h.fraction_digits⟩
  · unfold exponentText
    split
    · nofun
    · refine List.forall_mem_cons.mpr ⟨by decide, List.forall_mem_cons.mpr ⟨?_, ?_⟩⟩
      · split <;> decide
      · exact hdigits h.exponent_digits

theorem IsPlain.text_ne_nil (h : l.IsPlain) : l.text ≠ [] := by
  simp [text, h.whole_ne_nil]

private theorem leading_toDigits (n : Nat) :
    (Nat.toDigits 10 n).head? = some '0' → (Nat.toDigits 10 n).length = 1 := by
  rcases Nat.eq_zero_or_pos n with rfl | hpos
  · exact fun _ => rfl
  · exact fun h => absurd h (head?_toDigits (Nat.ne_of_gt hpos))

def ofInt (i : Int) : JsonLiteral := ⟨i < 0, Nat.toDigits 10 i.natAbs, [], false, []⟩

theorem isPlain_ofInt (i : Int) : (ofInt i).IsPlain where
  whole_ne_nil := Nat.toDigits_ne_nil
  whole_digits := isDigit_of_mem_toDigits
  leading := leading_toDigits i.natAbs
  fraction_digits := nofun
  exponent_digits := nofun
  exponent_sign _ := rfl

theorem text_ofInt (i : Int) : (ofInt i).text = Json.integerChars i := by
  simp [text, ofInt, fractionText, exponentText, Json.integerChars]

theorem number?_ofInt {i : Int} (hleast : -(wordBound / 2 : Nat) ≤ i) (hmost : i < wordBound) :
    (ofInt i).number? = some (.integer i) := by
  unfold number?
  simp only [ofInt, digitsValue_toDigits, List.isEmpty_nil, Bool.and_true, Bool.true_and]
  by_cases hi : i < 0
  · have hrange : 0 < i.natAbs ∧ i.natAbs ≤ wordBound / 2 := by omega
    have habs : -(i.natAbs : Int) = i := by omega
    simp only [hi, hrange.1, hrange.2, decide_true, Bool.not_true, Bool.false_and,
      Bool.false_eq_true, if_false, Bool.and_self, if_true, habs]
  · have hrange : i.natAbs < wordBound := by omega
    have habs : (i.natAbs : Int) = i := by omega
    simp only [hi, decide_false, Bool.not_false, Bool.true_and, hrange, decide_true, if_true, habs]

end JsonLiteral

end PagedSearch
