import Mathlib.Algebra.Field.Rat
import Mathlib.Algebra.Order.Field.Power
import Mathlib.Algebra.Order.Ring.Rat
import Mathlib.Tactic.NormNum
import Mathlib.Tactic.Positivity
import Mathlib.Tactic.Ring
import PagedSearch.Number.Binary

/-!
# Values and magnitudes

A finite number stands for a rational, and rational arithmetic on the values is exact. A quotient
below a power of two rounds to a finite number below a power of two that is little
higher, so products of numbers far from the largest ones do not leave the finite numbers.
-/

namespace PagedSearch

variable {f : BinaryFormat}

namespace Binary

/-- What a finite number stands for; other patterns are given the value zero. -/
def value (x : Binary f) : ℚ :=
  match x.extent with
  | .finite significand exponent =>
    (if x.negative then -1 else 1) * significand * (2 : ℚ) ^ exponent
  | .infinite | .nan => 0

def IsPowerOfTwo (x : Binary f) : Prop := ∃ e : ℤ, x.value = 2 ^ e

theorem IsPowerOfTwo.value_ne_zero {x : Binary f} (h : x.IsPowerOfTwo) : x.value ≠ 0 := by
  obtain ⟨e, he⟩ := h
  rw [he]
  exact zpow_ne_zero e (by decide)

end Binary

namespace BinaryFormat

structure IsProper (f : BinaryFormat) : Prop where
  precision_pos : 0 < f.precision
  one_lt_exponentBits : 1 < f.exponentBits

theorem isProper_single : single.IsProper := ⟨by decide, by decide⟩

theorem isProper_double : double.IsProper := ⟨by decide, by decide⟩

/-- The exponent of the first power of two that is no finite number. -/
def reach (f : BinaryFormat) : Nat := 2 ^ (f.exponentBits - 1)

theorem binade_pos (f : BinaryFormat) : 0 < f.binade := Nat.pow_pos (by decide)

theorem infinity_eq (hf : f.IsProper) : f.infinity = (2 * f.reach - 1) * f.binade := by
  have hbits : f.exponentBits ≠ 0 := Nat.ne_of_gt (Nat.zero_lt_of_lt hf.one_lt_exponentBits)
  rw [infinity, reach, mul_pow_sub_one hbits]
  rfl

theorem two_mul_binade (hf : f.IsProper) : 2 * f.binade = 2 ^ f.precision := by
  rw [binade, Nat.pow_eq, mul_pow_sub_one (Nat.ne_of_gt hf.precision_pos)]

theorem two_le_reach (hf : f.IsProper) : 2 ≤ f.reach := by
  have hbits : 1 ≤ f.exponentBits - 1 := Nat.le_sub_one_of_lt hf.one_lt_exponentBits
  exact Nat.pow_le_pow_right (n := 2) (by decide) hbits

theorem leastExponent_eq (f : BinaryFormat) : f.leastExponent = 3 - f.reach - f.precision := by
  rw [leastExponent, reach]
  rfl

theorem infinity_lt (hf : f.IsProper) : f.infinity < 2 ^ (f.width - 1) := by
  have hwidth : f.width - 1 = f.exponentBits - 1 + 1 + (f.precision - 1) := by
    have := hf.precision_pos
    have := hf.one_lt_exponentBits
    rw [width]
    omega
  have hpow : 2 ^ (f.width - 1) = 2 * f.reach * f.binade := by
    rw [hwidth, Nat.pow_add, Nat.pow_succ']
    rfl
  rw [hpow, infinity_eq hf]
  have := two_le_reach hf
  exact Nat.mul_lt_mul_of_pos_right (by omega) f.binade_pos

end BinaryFormat

section Rounding

variable {num den k : Nat}

theorem scaledQuotient_value (hden : 0 < den) (num : Nat) (exponent : ℤ) :
    0 < (scaledQuotient num den exponent).2 ∧
      ((scaledQuotient num den exponent).1 : ℚ) / (scaledQuotient num den exponent).2 =
        num / den / 2 ^ exponent := by
  unfold scaledQuotient
  split
  · rename_i hexponent
    obtain ⟨n, rfl⟩ := Int.eq_ofNat_of_zero_le hexponent
    refine ⟨Nat.mul_pos hden (Nat.two_pow_pos _), ?_⟩
    simp only [Int.toNat_natCast, Nat.pow_eq, Nat.cast_mul, Nat.cast_pow, Nat.cast_ofNat,
      zpow_natCast]
    rw [div_div]
  · rename_i hexponent
    obtain ⟨n, hn⟩ := Int.eq_ofNat_of_zero_le (a := -exponent) (by omega)
    obtain rfl : exponent = -n := by omega
    refine ⟨hden, ?_⟩
    simp only [neg_neg, Int.toNat_natCast, Nat.pow_eq, Nat.cast_mul, Nat.cast_pow, Nat.cast_ofNat,
      zpow_neg, zpow_natCast, div_inv_eq_mul]
    ring

theorem scaledQuotient_div_lt_iff (hden : 0 < den) (num k : Nat) (exponent : ℤ) :
    (scaledQuotient num den exponent).1 / (scaledQuotient num den exponent).2 < 2 ^ k ↔
      (num : ℚ) / den < 2 ^ ((k : ℤ) + exponent) := by
  obtain ⟨hpos, hvalue⟩ := scaledQuotient_value hden num exponent
  have hunit : (0 : ℚ) < 2 ^ exponent := by positivity
  rw [zpow_add₀ (by norm_num), ← div_lt_iff₀ hunit, ← hvalue,
    div_lt_iff₀ (Nat.cast_pos.mpr hpos), Nat.div_lt_iff_lt_mul hpos, zpow_natCast]
  exact_mod_cast Iff.rfl

theorem log2_lt_quotient (hden : 0 < den) (hnum : num ≠ 0) :
    (2 : ℚ) ^ ((num.log2 : ℤ) - den.log2 - 1) < num / den := by
  have hnum' : (2 : ℚ) ^ (num.log2 : ℤ) ≤ num := by
    exact_mod_cast Nat.log2_self_le hnum
  have hden' : (den : ℚ) < 2 ^ ((den.log2 : ℤ) + 1) := by
    exact_mod_cast Nat.lt_log2_self (n := den)
  rw [lt_div_iff₀ (Nat.cast_pos.mpr hden)]
  calc (2 : ℚ) ^ ((num.log2 : ℤ) - den.log2 - 1) * den
      < 2 ^ ((num.log2 : ℤ) - den.log2 - 1) * 2 ^ ((den.log2 : ℤ) + 1) := by gcongr
    _ = 2 ^ (num.log2 : ℤ) := by
      rw [← zpow_add₀ (by norm_num)]
      congr 1
      omega
    _ ≤ num := hnum'

theorem quotient_lt_log2 (hden : 0 < den) (num : Nat) :
    (num : ℚ) / den < 2 ^ ((num.log2 : ℤ) - den.log2 + 1) := by
  have hnum : (num : ℚ) < 2 ^ ((num.log2 : ℤ) + 1) := by
    exact_mod_cast Nat.lt_log2_self (n := num)
  have hden' : (2 : ℚ) ^ (den.log2 : ℤ) ≤ den := by
    exact_mod_cast Nat.log2_self_le hden.ne'
  rw [div_lt_iff₀ (Nat.cast_pos.mpr hden)]
  calc (num : ℚ) < 2 ^ ((num.log2 : ℤ) + 1) := hnum
    _ = 2 ^ ((num.log2 : ℤ) - den.log2 + 1) * 2 ^ (den.log2 : ℤ) := by
      rw [← zpow_add₀ (by norm_num)]
      congr 1
      omega
    _ ≤ 2 ^ ((num.log2 : ℤ) - den.log2 + 1) * den := by gcongr

private theorem scaledQuotient_div_lt {precision : Nat} {exponent : ℤ} (hden : 0 < den)
    (h : (num.log2 : ℤ) - den.log2 - precision < exponent) :
    (scaledQuotient num den exponent).1 / (scaledQuotient num den exponent).2 < 2 ^ precision := by
  rw [scaledQuotient_div_lt_iff hden]
  calc (num : ℚ) / den < 2 ^ ((num.log2 : ℤ) - den.log2 + 1) := quotient_lt_log2 hden num
    _ ≤ 2 ^ ((precision : ℤ) + exponent) := zpow_le_zpow_right₀ (by norm_num) (by omega)

theorem roundedQuotient_le {bound : Nat} (h : num / den < bound) :
    roundedQuotient num den ≤ bound := by
  unfold roundedQuotient
  dsimp only
  split <;> omega

private theorem nearestPattern_le (hf : f.IsProper) (hden : 0 < den) (h : num < den * 2 ^ k) :
    nearestPattern f num den ≤ (k + f.reach) * f.binade := by
  rcases Nat.eq_zero_or_pos num with rfl | hpos
  · exact Nat.zero_le _
  have hlog : num.log2 < den.log2 + 1 + k := by
    apply (Nat.pow_lt_pow_iff_right (a := 2) (by decide)).mp
    calc 2 ^ num.log2 ≤ num := Nat.log2_self_le (Nat.ne_of_gt hpos)
      _ < den * 2 ^ k := h
      _ ≤ 2 ^ (den.log2 + 1) * 2 ^ k := Nat.mul_le_mul_right _ Nat.lt_log2_self.le
      _ = 2 ^ (den.log2 + 1 + k) := (Nat.pow_add _ _ _).symm
  have htwo := f.two_le_reach hf
  have hleast := f.leastExponent_eq
  unfold nearestPattern
  rw [if_neg (Nat.ne_of_gt hpos)]
  dsimp only
  generalize htrial : (num.log2 : ℤ) - den.log2 - f.precision = trial
  generalize hchosen : (if (scaledQuotient num den trial).1 / (scaledQuotient num den trial).2 <
    Nat.pow 2 f.precision then trial else trial + 1) = chosen
  -- the significand has as many digits as fit, or it was scaled by one more
  have hround : roundedQuotient (scaledQuotient num den (max f.leastExponent chosen)).1
      (scaledQuotient num den (max f.leastExponent chosen)).2 ≤ 2 * f.binade := by
    rw [f.two_mul_binade hf]
    apply roundedQuotient_le
    by_cases hfits : max f.leastExponent chosen = trial
    · rw [hfits]
      split at hchosen
      · assumption
      · omega
    · apply scaledQuotient_div_lt hden
      split at hchosen <;> omega
  have hexponent : (max f.leastExponent chosen - f.leastExponent).toNat + 2 ≤ k + f.reach := by
    split at hchosen <;> omega
  calc min f.infinity _ ≤ _ := min_le_right _ _
    _ ≤ (max f.leastExponent chosen - f.leastExponent).toNat * f.binade + 2 * f.binade := by
      exact Nat.add_le_add_left hround _
    _ = ((max f.leastExponent chosen - f.leastExponent).toNat + 2) * f.binade :=
      (Nat.add_mul _ _ _).symm
    _ ≤ (k + f.reach) * f.binade := Nat.mul_le_mul_right _ hexponent

end Rounding

namespace Binary

open BinaryFormat

theorem pattern_ofPattern {n : Nat} (hn : n < 2 ^ (f.width - 1)) (negative : Bool) :
    (ofPattern negative n : Binary f).pattern = n := by
  have hwidth : 2 ^ (f.width - 1) ∣ 2 ^ f.width := Nat.pow_dvd_pow 2 (Nat.sub_le _ _)
  rw [pattern, ofPattern, BitVec.toNat_ofNat, Nat.pow_eq, Nat.mod_mod_of_dvd _ hwidth]
  cases negative
  · simpa using Nat.mod_eq_of_lt hn
  · simpa using Nat.mod_eq_of_lt hn

variable {x y : Binary f} {m n k l num den : Nat} {e : ℤ}

/-- A finite number is a significand of limited size and the exponent of its field. -/
theorem extent_eq_finite (h : x.extent = .finite m e) :
    x.pattern < f.infinity ∧ m < 2 * f.binade ∧
      e = f.leastExponent + (x.pattern / f.binade - 1 : Nat) ∧ (m = 0 ↔ x.pattern = 0) := by
  have hmod : x.pattern % f.binade < f.binade := Nat.mod_lt _ f.binade_pos
  have hdiv := Nat.div_add_mod x.pattern f.binade
  unfold extent at h
  dsimp only at h
  split at h
  · cases h
  split at h
  · cases h
  rename_i hinfinite hnan
  split at h
  · rename_i hfield
    cases h
    rw [hfield] at hdiv ⊢
    refine ⟨by omega, by omega, by simp, by omega⟩
  · rename_i hfield
    cases h
    have hne : x.pattern ≠ 0 := by
      intro hzero
      rw [hzero, Nat.zero_div] at hfield
      exact hfield rfl
    have := f.binade_pos
    exact ⟨by omega, by omega, rfl, by omega⟩

theorem exists_extent_of_pattern_lt (h : x.pattern < f.infinity) : ∃ m e, x.extent = .finite m e := by
  unfold extent
  dsimp only
  rw [if_neg (by omega), if_neg (by omega)]
  split
  · exact ⟨_, _, rfl⟩
  · exact ⟨_, _, rfl⟩

def Below (x : Binary f) (k : Nat) : Prop := ∃ m e, x.extent = .finite m e ∧ (m : ℚ) * 2 ^ e < 2 ^ k

theorem Below.isInfinite (h : x.Below k) : x.isInfinite = false := by
  obtain ⟨m, e, hextent, -⟩ := h
  have hlt := (extent_eq_finite hextent).1
  simpa [Binary.isInfinite] using hlt.ne

theorem ofQuotient_below (hf : f.IsProper) (hk : k + 1 < f.reach) (hden : 0 < den)
    (h : num < den * 2 ^ k) (negative : Bool) :
    (ofQuotient negative num den : Binary f).Below (k + 2) := by
  have hle := nearestPattern_le hf hden h
  have hlt : nearestPattern f num den < f.infinity := by
    rw [infinity_eq hf]
    exact hle.trans_lt (Nat.mul_lt_mul_of_pos_right (by omega) f.binade_pos)
  have hpattern : (ofQuotient negative num den : Binary f).pattern = nearestPattern f num den :=
    pattern_ofPattern (hlt.trans (infinity_lt hf)) negative
  obtain ⟨m, e, hextent⟩ := exists_extent_of_pattern_lt (hpattern ▸ hlt)
  obtain ⟨-, hm, he, -⟩ := extent_eq_finite hextent
  have hfield : nearestPattern f num den / f.binade ≤ k + f.reach :=
    Nat.div_le_of_le_mul (by rwa [Nat.mul_comm] at hle)
  have hexponent : e ≤ (k + 2 : Nat) - (f.precision : ℤ) := by
    rw [he, hpattern, leastExponent_eq]
    omega
  rw [two_mul_binade hf] at hm
  refine ⟨m, e, hextent, ?_⟩
  calc (m : ℚ) * 2 ^ e < (2 : ℚ) ^ f.precision * 2 ^ e := by
        gcongr
        exact_mod_cast hm
    _ ≤ (2 : ℚ) ^ f.precision * 2 ^ ((k + 2 : Nat) - (f.precision : ℤ)) := by
        gcongr
        norm_num
    _ = 2 ^ (k + 2) := by
        rw [← zpow_natCast, ← zpow_add₀ (by norm_num), add_sub_cancel, zpow_natCast]

private theorem ofScaled_below (hf : f.IsProper) (hk : k + 1 < f.reach)
    (h : (m : ℚ) * 2 ^ e < 2 ^ k) (negative : Bool) :
    (ofScaled negative m e : Binary f).Below (k + 2) := by
  unfold ofScaled
  split
  · rename_i he
    obtain ⟨n, rfl⟩ := Int.eq_ofNat_of_zero_le he
    apply ofQuotient_below hf hk Nat.one_pos
    rw [Nat.one_mul]
    exact_mod_cast h
  · rename_i he
    obtain ⟨n, hn⟩ := Int.eq_ofNat_of_zero_le (a := -e) (by omega)
    obtain rfl : e = -n := by omega
    apply ofQuotient_below hf hk (Nat.two_pow_pos _)
    rw [zpow_neg, ← div_eq_mul_inv, div_lt_iff₀ (by positivity), mul_comm] at h
    rw [neg_neg]
    exact_mod_cast h

/-- A product of two numbers is finite if the powers of two above them are far from the largest
numbers. -/
theorem mul_below (hf : f.IsProper) (hkl : k + l + 1 < f.reach) (hx : x.Below k)
    (hy : y.Below l) : (x * y).Below (k + l + 2) := by
  obtain ⟨m, d, hx, hm⟩ := hx
  obtain ⟨n, e, hy, hn⟩ := hy
  have hmul : x * y = ofScaled (x.negative != y.negative) (m * n) (d + e) := by
    change x.mul y = _
    rw [Binary.mul, hx, hy]
  rw [hmul]
  apply ofScaled_below hf hkl
  calc ((m * n : Nat) : ℚ) * 2 ^ (d + e) = m * 2 ^ d * (n * 2 ^ e) := by
        rw [Nat.cast_mul, zpow_add₀ (by norm_num)]
        ring
    _ < 2 ^ k * 2 ^ l := by gcongr
    _ = 2 ^ (k + l) := (pow_add _ _ _).symm

end Binary

end PagedSearch
