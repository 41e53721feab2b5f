import Mathlib.Data.List.TakeWhile
import PagedSearch.Proofs.Number.Shortest
import PagedSearch.Proofs.Number.Exact
import PagedSearch.Store.Document

/-!
# Values read as integers and as numbers

A stored value may be read as a signed word and as a double. The two readings agree, but for floats
outside the range of words: these are read as the word nearest to them, which is another number.
-/

namespace PagedSearch

open BinaryFormat

private theorem toInt_clampWord (n : ℤ) :
    (clampWord n).toInt = max (-2 ^ 63) (min (2 ^ 63 - 1) n) := by
  have hleast : Int64.minValue.toInt = -2 ^ 63 := by decide
  have hmost : Int64.maxValue.toInt = 2 ^ 63 - 1 := by decide
  rw [clampWord, hleast, hmost]
  apply Int64.toInt_ofInt_of_le <;> omega

private theorem readInt?_eq (text : List Char) :
    readInt? text = (readDigits? (splitSign text).2).map (Binary.signed (splitSign text).1) := by
  rw [readInt?]
  rcases splitSign text with ⟨negative, digits⟩
  dsimp only
  cases readDigits? digits <;> rfl

private theorem readDigits?_eq_some_iff {digits : List Char} {k : Nat} :
    readDigits? digits = some k ↔
    digits ≠ [] ∧ (∀ c ∈ digits, isDigit c = true) ∧ digitsValue digits = k := by
  rw [readDigits?]
  split
  · rename_i hnone
    refine iff_of_false (by simp) ?_
    rintro ⟨hne, hall, -⟩
    simp only [Bool.or_eq_true, List.isEmpty_iff, hne, false_or, Bool.not_eq_true',
      List.all_eq_false] at hnone
    obtain ⟨c, hc, hdigit⟩ := hnone
    exact hdigit (hall c hc)
  · rename_i hsome
    simp only [Bool.or_eq_true, List.isEmpty_iff, not_or, Bool.not_eq_true', Bool.not_eq_false,
      List.all_eq_true] at hsome
    rw [Option.some_inj, and_iff_right hsome.1, and_iff_right hsome.2]

private theorem mem_decimalChars_of_isDigit {c : Char} (h : isDigit c = true) :
    c ∈ decimalChars := by
  rw [isDigit, Bool.and_eq_true, decide_eq_true_eq, decide_eq_true_eq, Char.le_def, Char.le_def,
    UInt32.le_iff_toNat_le, UInt32.le_iff_toNat_le] at h
  have hcode : ∀ n < 10, Char.ofNat (48 + n) ∈ decimalChars := by decide
  have hlow : 48 ≤ c.toNat := h.1
  have hhigh : c.toNat ≤ 57 := h.2
  have hc := hcode (c.toNat - 48) (by omega)
  rwa [Nat.add_sub_cancel' hlow, Char.ofNat_toNat] at hc

private theorem readBinary?_of_digits {f : BinaryFormat} {text : List Char}
    (hne : (splitSign text).2 ≠ []) (hdigits : ∀ c ∈ (splitSign text).2, isDigit c = true) :
    readBinary? f text =
      some (.ofDecimal (splitSign text).1 (digitsValue (splitSign text).2) 0) := by
  rw [readBinary?_of_plain fun c hc => mem_decimalChars_of_isDigit (hdigits c hc)]
  have hwhole := List.takeWhile_eq_self_iff.mpr hdigits
  have hrest := List.dropWhile_eq_nil_iff.mpr hdigits
  simp [readDecimal?, hwhole, hrest, hne, readExponent?]

private theorem ofDecimal_whole {k : Nat} (h : k ≤ 2 ^ 63) (negative : Bool) :
    (Binary.ofDecimal negative k 0 : Binary64) = .ofQuotient negative k 1 := by
  have hlength : (Nat.toDigits 10 k).length ≤ 19 :=
    (Nat.length_toDigits_le_iff (by decide) (by decide)).mpr (h.trans_lt (by decide))
  have hreach : Binary.decimalReach = 400 := rfl
  rcases Nat.eq_zero_or_pos k with rfl | hpos
  · rfl
  · unfold Binary.ofDecimal
    dsimp only
    rw [hreach, if_neg, if_neg (by omega), if_pos le_rfl, Int.toNat_zero, Nat.pow_eq, Nat.pow_zero,
      Nat.mul_one]
    simp
    omega

private theorem ofInt_signed {f : BinaryFormat} {k : Nat} {negative : Bool}
    (h : k = 0 → negative = false) :
    (Binary.ofInt (Binary.signed negative k) : Binary f) = .ofQuotient negative k 1 := by
  cases negative with
  | false =>
    rw [Binary.signed, if_neg Bool.false_ne_true, Binary.ofInt, Int.natAbs_natCast,
      decide_eq_false (by omega)]
  | true =>
    have hpos : k ≠ 0 := fun hzero => Bool.noConfusion (h hzero)
    rw [Binary.signed, if_pos rfl, Binary.ofInt, Int.natAbs_neg, Int.natAbs_natCast,
      decide_eq_true (by omega)]

private theorem readBinary?_of_readWord? {text : List Char} {n : ℤ} {x : Binary64}
    (hn : readWord? 64 text = some n) (hx : readBinary? .double text = some x) :
    (-2 ^ 63 ≤ n ∧ n < 2 ^ 63) ∧ (x = .ofInt n ∨ n = 0 ∧ x = .zero true) := by
  obtain ⟨hread, hrange⟩ := Option.filter_eq_some_iff.mp hn
  have hword : -2 ^ 63 ≤ n ∧ n < 2 ^ 63 := by simpa using hrange
  rw [readInt?_eq, Option.map_eq_some_iff] at hread
  obtain ⟨k, hdigits, rfl⟩ := hread
  obtain ⟨hne, hall, hk⟩ := readDigits?_eq_some_iff.mp hdigits
  have hmoderate : k ≤ 2 ^ 63 := by
    unfold Binary.signed at hword
    split at hword <;> omega
  rw [readBinary?_of_digits hne hall, hk, ofDecimal_whole hmoderate, Option.some_inj] at hx
  refine ⟨hword, ?_⟩
  by_cases hzero : k = 0 ∧ (splitSign text).1 = true
  · rw [hzero.1, hzero.2] at hx ⊢
    exact .inr ⟨rfl, hx.symm⟩
  · rw [not_and, Bool.not_eq_true] at hzero
    exact .inl (by rw [ofInt_signed hzero, hx])

namespace Binary

variable {x : Binary64} {n : ℤ}

private theorem value_ofInt_most : (ofInt (2 ^ 63 - 1) : Binary64).value = 2 ^ 63 := by
  have hextent : (ofInt (2 ^ 63 - 1) : Binary64).extent = .finite (2 ^ 52) 11 := rfl
  have hsign : (ofInt (2 ^ 63 - 1) : Binary64).negative = false := by decide
  rw [value_of_extent hextent, hsign]
  norm_num

private theorem value_ofInt_least : (ofInt (-2 ^ 63) : Binary64).value = -2 ^ 63 := by
  have hextent : (ofInt (-2 ^ 63) : Binary64).extent = .finite (2 ^ 52) 11 := rfl
  have hsign : (ofInt (-2 ^ 63) : Binary64).negative = true := by decide
  rw [value_of_extent hextent, hsign]
  norm_num

/-- The word nearest to the value of a float is rounded to the float exactly if the float does not
pass the ends of the range of words. -/
theorem eq_ofInt_clampWord_iff (hfinite : x.isFinite = true) (hvalue : x.value = n) :
    x = .ofInt (clampWord n).toInt ∨ clampWord n = 0 ∧ x = .zero true ↔
      -2 ^ 63 ≤ n ∧ n ≤ 2 ^ 63 := by
  have hinside (hn : n ≠ 0) : ofInt n = x := ofInt_of_value isProper_double hfinite hvalue hn
  have hword := toInt_clampWord n
  constructor
  · -- a float beyond the range has neither the value of its end nor that of zero
    rintro (heq | ⟨hzero, -⟩)
    · by_contra hout
      have hends : (clampWord n).toInt = -2 ^ 63 ∧ n < -2 ^ 63 ∨
          (clampWord n).toInt = 2 ^ 63 - 1 ∧ 2 ^ 63 < n := by omega
      rcases hends with ⟨hend, hn⟩ | ⟨hend, hn⟩
      · rw [heq, hend, value_ofInt_least] at hvalue
        exact absurd hvalue (by exact_mod_cast hn.ne')
      · rw [heq, hend, value_ofInt_most] at hvalue
        exact absurd hvalue (by exact_mod_cast hn.ne)
    · rw [hzero, Int64.toInt_zero] at hword
      omega
  · rintro ⟨hlow, hhigh⟩
    rcases eq_or_ne n 0 with rfl | hn
    · have hzero := eq_zero_of_value isProper_double hfinite (by rw [hvalue, Int.cast_zero])
      cases hsign : x.negative with
      | false => exact .inl (by rw [hsign] at hzero; exact hzero)
      | true => exact .inr ⟨rfl, by rw [hsign] at hzero; exact hzero⟩
    · left
      rcases eq_or_ne n (2 ^ 63) with rfl | hend
      · rw [← hinside hn]
        decide
      · rw [← hinside hn, hword]
        congr 1
        omega

private theorem value_eq_clampWord_iff (hvalue : x.value = n) :
    x.value = (clampWord n).toInt ↔ -2 ^ 63 ≤ n ∧ n < 2 ^ 63 := by
  rw [hvalue, toInt_clampWord, Int.cast_inj]
  omega

end Binary

namespace StoredValue

/-- A value that is read as a word and as a double is read as one number, the word rounded to a
double, or zero with a minus sign. Only floats beyond the range of words are read otherwise. A float
is read as the word that is its value if there is one. -/
theorem integer?_agrees_number? {v : StoredValue} {i : Int64} {x : Binary64}
    (hi : v.integer? = some i) (hx : v.number? = some x) :
    (x = .ofInt i.toInt ∨ i = 0 ∧ x = .zero true ↔
      ∀ y, v = .float y → -2 ^ 63 ≤ y.value ∧ y.value ≤ 2 ^ 63) ∧
    ∀ y, v = .float y → (y.value = i.toInt ↔ -2 ^ 63 ≤ y.value ∧ y.value < 2 ^ 63) := by
  cases v with
  | boolean b => cases hi
  | integer j =>
    obtain rfl : j = i := Option.some.inj hi
    obtain rfl := Option.some.inj hx
    exact ⟨iff_of_true (.inl rfl) nofun, nofun⟩
  | float y =>
    obtain rfl : y = x := Option.some.inj hx
    obtain ⟨n, hn, rfl⟩ := Option.map_eq_some_iff.mp hi
    obtain ⟨hfinite, hvalue⟩ := Binary.toInt?_eq_some_iff.mp hn
    have hrange : -2 ^ 63 ≤ y.value ∧ y.value ≤ 2 ^ 63 ↔ -2 ^ 63 ≤ n ∧ n ≤ 2 ^ 63 := by
      rw [hvalue]
      exact_mod_cast Iff.rfl
    have hrange' : -2 ^ 63 ≤ y.value ∧ y.value < 2 ^ 63 ↔ -2 ^ 63 ≤ n ∧ n < 2 ^ 63 := by
      rw [hvalue]
      exact_mod_cast Iff.rfl
    simp only [float.injEq, forall_eq', hrange, hrange']
    exact ⟨Binary.eq_ofInt_clampWord_iff hfinite hvalue, Binary.value_eq_clampWord_iff hvalue⟩
  | text s =>
    obtain ⟨n, hn, rfl⟩ := Option.map_eq_some_iff.mp hi
    obtain ⟨⟨hlow, hhigh⟩, hsame⟩ := readBinary?_of_readWord? hn hx
    rw [Int64.toInt_ofInt_of_le hlow hhigh]
    refine ⟨iff_of_true ?_ nofun, nofun⟩
    rcases hsame with hsame | ⟨rfl, hzero⟩
    · exact .inl hsame
    · exact .inr ⟨rfl, hzero⟩

/-- The end of the range of words is read as the largest word, which is rounded to it but is not its
value. -/
theorem integer?_agrees_number?_limit :
    let limit : Binary64 := .ofInt (2 ^ 63)
    (float limit).integer? = some Int64.maxValue ∧
      limit = .ofInt Int64.maxValue.toInt ∧ limit.value ≠ Int64.maxValue.toInt := by
  intro limit
  have hread : (float limit).integer? = some Int64.maxValue := by decide
  obtain ⟨hagrees, hexact⟩ := integer?_agrees_number? hread rfl
  have hvalue : limit.value = 2 ^ 63 := Binary.value_ofInt_most
  refine ⟨hread, ?_, ?_⟩
  · have hwithin : ∀ y, float limit = .float y → -2 ^ 63 ≤ y.value ∧ y.value ≤ 2 ^ 63 := by
      rintro y ⟨⟩
      rw [hvalue]
      norm_num
    exact (hagrees.mpr hwithin).resolve_right (by decide)
  · rw [Ne, hexact limit rfl, hvalue]
    norm_num

/-- The float 2^64 is read as the largest word, which is rounded to another float. -/
theorem float_beyond_words : ∃ v : StoredValue, ∃ i x, v.integer? = some i ∧ v.number? = some x ∧
    ¬ (x = .ofInt i.toInt ∨ i = 0 ∧ x = .zero true) :=
  ⟨.float (.ofInt (2 ^ 64)), Int64.maxValue, .ofInt (2 ^ 64), by decide, rfl, by decide⟩

end StoredValue

end PagedSearch
