import PagedSearch.Number.Reading
import PagedSearch.Proofs.Number.Magnitude

/-!
# Signs of numbers read

A decimal literal is an optional sign with digits and at most one point behind it. A minus sign
turns the sign of the number that the rest of the literal stands for, and nothing else.
-/

namespace PagedSearch

variable {f : BinaryFormat}

theorem nearestPattern_le_infinity (f : BinaryFormat) (num den : Nat) :
    nearestPattern f num den ≤ f.infinity := by
  unfold nearestPattern
  split
  · exact Nat.zero_le _
  · exact Nat.min_le_left _ _

namespace Binary

section Pattern

variable {n : Nat} (hf : f.IsProper) (hn : n < 2 ^ (f.width - 1))

include hf hn

theorem negative_ofPattern (negative : Bool) :
    (ofPattern negative n : Binary f).negative = negative := by
  have hwidth : 2 * 2 ^ (f.width - 1) = 2 ^ f.width :=
    mul_pow_sub_one (Nat.ne_of_gt (Nat.add_pos_left hf.precision_pos f.exponentBits)) 2
  rw [Binary.negative, ofPattern, BitVec.msb_eq_decide, BitVec.toNat_ofNat, Nat.pow_eq]
  cases negative
  · rw [if_neg Bool.false_ne_true, Nat.add_zero, Nat.mod_eq_of_lt (by omega)]
    exact decide_eq_false (by omega)
  · rw [if_pos rfl, Nat.mod_eq_of_lt (by omega)]
    exact decide_eq_true (by omega)

private theorem ofPattern_true : (ofPattern true n : Binary f) = -ofPattern false n := by
  show ofPattern true n = ofPattern (!(ofPattern false n : Binary f).negative) _
  rw [negative_ofPattern hf hn, pattern_ofPattern hn, Bool.not_false]

private theorem compareTotal_ofPattern :
    (ofPattern false n : Binary f).compareTotal (ofPattern true n) = .gt := by
  rw [compareTotal, orderKey, orderKey, negative_ofPattern hf hn, negative_ofPattern hf hn,
    if_pos rfl, if_neg Bool.false_ne_true]
  apply Int.compare_eq_gt.mpr
  omega

end Pattern

private theorem exists_ofDecimal_eq (hf : f.IsProper) (significand : Nat) (exponent : Int) :
    ∃ n < 2 ^ (f.width - 1), ∀ negative,
      (ofDecimal negative significand exponent : Binary f) = ofPattern negative n := by
  have hbound {n : Nat} (hn : n ≤ f.infinity) : n < 2 ^ (f.width - 1) :=
    Nat.lt_of_le_of_lt hn (BinaryFormat.infinity_lt hf)
  unfold ofDecimal
  dsimp only
  split
  · exact ⟨0, hbound (Nat.zero_le _), fun _ => rfl⟩
  split
  · exact ⟨f.infinity, hbound le_rfl, fun _ => rfl⟩
  split
  · exact ⟨_, hbound (nearestPattern_le_infinity f _ _), fun _ => rfl⟩
  · exact ⟨_, hbound (nearestPattern_le_infinity f _ _), fun _ => rfl⟩

end Binary

def decimalChars : List Char := ['.', '0', '1', '2', '3', '4', '5', '6', '7', '8', '9']

/-- A text is a decimal literal without exponent, and a number is what it is read as. Behind its
sign there are only digits and a point. -/
structure IsDecimal (text : List Char) (x : Binary64) : Prop where
  plain : ∀ c ∈ (splitSign text).2, c ∈ decimalChars
  read : readBinary? .double text = some x

section Plain

variable {text : List Char}

theorem readBinary?_of_plain (hplain : ∀ c ∈ (splitSign text).2, c ∈ decimalChars) :
    readBinary? f text = readDecimal? f (splitSign text).1 (splitSign text).2 := by
  have hword (word : String) (c : Char) (hhead : word.toList.head? = some c)
      (hc : c ∉ decimalChars.map Char.toLower) :
      String.ofList ((splitSign text).2.map Char.toLower) ≠ word := by
    rintro rfl
    rw [String.toList_ofList, List.head?_map, Option.map_eq_some_iff] at hhead
    obtain ⟨d, hd, hlower⟩ := hhead
    rw [← hlower] at hc
    exact hc (List.mem_map_of_mem (hplain d (List.mem_of_mem_head? hd)))
  rw [readBinary?]
  dsimp only
  split
  case h_1 h => exact absurd h (hword "inf" 'i' rfl (by decide))
  case h_2 h => exact absurd h (hword "infinity" 'i' rfl (by decide))
  case h_3 h => exact absurd h (hword "nan" 'n' rfl (by decide))
  case h_4 => rfl

private theorem readDecimal?_cases (text : List Char) :
    (∀ negative, readDecimal? f negative text = none) ∨
      ∃ significand exponent, ∀ negative,
        readDecimal? f negative text = some (.ofDecimal negative significand exponent) := by
  have hparts (fraction rest : List Char) :
      let read (negative : Bool) : Option (Binary f) := do
        if (text.takeWhile isDigit).isEmpty && fraction.isEmpty then none
        let exponent ← readExponent? rest
        return .ofDecimal negative (digitsValue (text.takeWhile isDigit ++ fraction))
          (exponent - fraction.length)
      (∀ negative, read negative = none) ∨ ∃ significand exponent, ∀ negative,
        read negative = some (.ofDecimal negative significand exponent) := by
    dsimp only
    split
    · exact .inl fun _ => rfl
    · rcases readExponent? rest with - | exponent
      · exact .inl fun _ => rfl
      · exact .inr ⟨_, _, fun _ => rfl⟩
  exact hparts _ _

theorem readDecimal?_true (hf : f.IsProper) {x : Binary f}
    (h : readDecimal? f true text = some x) :
    ∃ y, readDecimal? f false text = some y ∧ x = -y ∧ y.compareTotal x = .gt := by
  rcases @readDecimal?_cases f text with hnone | ⟨significand, exponent, hsome⟩
  · rw [hnone] at h
    cases h
  · rw [hsome] at h
    cases h
    obtain ⟨n, hn, hpattern⟩ := Binary.exists_ofDecimal_eq hf significand exponent
    refine ⟨_, hsome false, ?_, ?_⟩
    · rw [hpattern, hpattern, Binary.ofPattern_true hf hn]
    · rw [hpattern, hpattern, Binary.compareTotal_ofPattern hf hn]

end Plain

end PagedSearch
