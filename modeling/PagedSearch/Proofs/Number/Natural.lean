import PagedSearch.Proofs.Number.Exact
import PagedSearch.Proofs.Number.TotalOrder

/-!
# Naturals as numbers

A natural is rounded at its leading bit, so rounding keeps the order of naturals. Up to the first
power of two that has more bits than the precision nothing is rounded.
-/

namespace PagedSearch

variable {f : BinaryFormat} {m n num num' den : Nat}

namespace BinaryFormat

/-- The exponent at which a natural is rounded, which leaves as many bits as the precision. -/
def naturalExponent (f : BinaryFormat) (n : Nat) : ℤ := (n.log2 : ℤ) + 1 - f.precision

def naturalSignificand (f : BinaryFormat) (n : Nat) : Nat :=
  let scaled := scaledQuotient n 1 (f.naturalExponent n)
  roundedQuotient scaled.1 scaled.2

end BinaryFormat

private theorem two_pow_log2_le (hn : n ≠ 0) : ((2 ^ n.log2 : Nat) : ℚ) ≤ n := by
  exact_mod_cast Nat.log2_self_le hn

private theorem log2_le_of_le_two_pow {bits : Nat} (hn : n ≠ 0) (h : n ≤ 2 ^ bits) :
    n.log2 ≤ bits := by
  apply (Nat.pow_le_pow_iff_right (a := 2) (by decide)).mp
  exact (Nat.log2_self_le hn).trans h

section Rounding

private theorem div_le_roundedQuotient : num / den ≤ roundedQuotient num den := by
  unfold roundedQuotient
  dsimp only
  split
  · exact Nat.le_succ _
  · exact le_rfl

private theorem roundedQuotient_mono (h : num ≤ num') :
    roundedQuotient num den ≤ roundedQuotient num' den := by
  rcases Nat.lt_or_eq_of_le (Nat.div_le_div_right (c := den) h) with hlt | heq
  · calc roundedQuotient num den ≤ num' / den := roundedQuotient_le hlt
      _ ≤ roundedQuotient num' den := div_le_roundedQuotient
  · -- with one floor, the greater numerator has the greater remainder
    have hfirst := Nat.div_add_mod num den
    have hsecond := Nat.div_add_mod num' den
    rw [← heq] at hsecond
    have hrest : num % den ≤ num' % den := by omega
    unfold roundedQuotient
    simp only [heq, Bool.or_eq_true, Bool.and_eq_true, decide_eq_true_eq, beq_iff_eq]
    split <;> split <;> omega

private theorem scaledQuotient_mono (h : m ≤ n) (e : ℤ) :
    (scaledQuotient m 1 e).1 ≤ (scaledQuotient n 1 e).1 ∧
      (scaledQuotient m 1 e).2 = (scaledQuotient n 1 e).2 := by
  unfold scaledQuotient
  split
  · exact ⟨h, rfl⟩
  · exact ⟨Nat.mul_le_mul_right _ h, rfl⟩

variable (hf : f.IsProper) (hn : n ≠ 0)

include hf

private theorem leastExponent_le (n : Nat) : f.leastExponent ≤ f.naturalExponent n := by
  have htwo := f.two_le_reach hf
  rw [f.leastExponent_eq, BinaryFormat.naturalExponent]
  omega

include hn

/-- Scaled to its exponent, a natural has a leading one and no more bits than the precision. -/
private theorem scaledQuotient_natural :
    let scaled := scaledQuotient n 1 (f.naturalExponent n)
    f.binade ≤ scaled.1 / scaled.2 ∧ scaled.1 / scaled.2 < 2 * f.binade := by
  intro scaled
  have hpos := hf.precision_pos
  have hlow := two_pow_log2_le hn
  have hhigh : (n : ℚ) < ((2 ^ (n.log2 + 1) : Nat) : ℚ) := by exact_mod_cast Nat.lt_log2_self
  have hfits (k : Nat) : scaled.1 / scaled.2 < 2 ^ k ↔
      (n : ℚ) < 2 ^ ((k : ℤ) + f.naturalExponent n) := by
    simpa using scaledQuotient_div_lt_iff Nat.one_pos n k (f.naturalExponent n)
  constructor
  · apply not_lt.mp
    intro hshort
    have hexponent : ((f.precision - 1 : Nat) : ℤ) + f.naturalExponent n = (n.log2 : Nat) := by
      rw [BinaryFormat.naturalExponent]
      omega
    have hless := (hfits (f.precision - 1)).mp hshort
    rw [hexponent, zpow_natCast] at hless
    exact absurd (hlow.trans_lt hless) (by simp)
  · have hexponent : (f.precision : ℤ) + f.naturalExponent n = (n.log2 + 1 : Nat) := by
      rw [BinaryFormat.naturalExponent]
      omega
    rw [f.two_mul_binade hf]
    apply (hfits f.precision).mpr
    rw [hexponent, zpow_natCast]
    exact_mod_cast hhigh

private theorem naturalSignificand_bounds :
    f.binade ≤ f.naturalSignificand n ∧ f.naturalSignificand n ≤ 2 * f.binade := by
  obtain ⟨hlow, hhigh⟩ := scaledQuotient_natural hf hn
  exact ⟨hlow.trans div_le_roundedQuotient, roundedQuotient_le hhigh⟩

private theorem nearestPattern_natural :
    nearestPattern f n 1 = min f.infinity
      ((f.naturalExponent n - f.leastExponent).toNat * f.binade + f.naturalSignificand n) := by
  have hlow := two_pow_log2_le hn
  have hone : Nat.log2 1 = 0 := by decide
  have htrial : ¬ (scaledQuotient n 1 ((n.log2 : ℤ) - (Nat.log2 1 : Nat) - f.precision)).1 /
      (scaledQuotient n 1 ((n.log2 : ℤ) - (Nat.log2 1 : Nat) - f.precision)).2 <
        Nat.pow 2 f.precision := by
    intro hfits
    have hless := (scaledQuotient_div_lt_iff Nat.one_pos n f.precision _).mp hfits
    rw [hone, Nat.cast_zero, sub_zero, add_sub_cancel, zpow_natCast, Nat.cast_one, div_one] at hless
    exact absurd (hlow.trans_lt hless) (by simp)
  have hexponent : max f.leastExponent ((n.log2 : ℤ) - (Nat.log2 1 : Nat) - f.precision + 1) =
      f.naturalExponent n := by
    rw [hone, Nat.cast_zero, sub_zero, sub_add_eq_add_sub]
    exact max_eq_right (leastExponent_le hf n)
  unfold nearestPattern
  rw [if_neg hn]
  dsimp only
  rw [if_neg htrial, hexponent]
  rfl

omit hn

/-- Rounding keeps the order of naturals. -/
theorem nearestPattern_mono (h : m ≤ n) : nearestPattern f m 1 ≤ nearestPattern f n 1 := by
  rcases Nat.eq_zero_or_pos m with rfl | hm
  · exact Nat.zero_le _
  have hm : m ≠ 0 := hm.ne'
  have hn : n ≠ 0 := by omega
  rw [nearestPattern_natural hf hm, nearestPattern_natural hf hn]
  apply min_le_min_left
  have hlog : m.log2 ≤ n.log2 :=
    (Nat.le_log2 hn).mpr ((Nat.log2_self_le hm).trans h)
  rcases Nat.lt_or_eq_of_le hlog with hlt | heq
  · -- the significand of the lower exponent may only reach that of the next one
    have hleast := leastExponent_le hf m
    have hnext : (f.naturalExponent m - f.leastExponent).toNat + 1 ≤
        (f.naturalExponent n - f.leastExponent).toNat := by
      rw [BinaryFormat.naturalExponent] at hleast
      rw [BinaryFormat.naturalExponent, BinaryFormat.naturalExponent]
      omega
    have hmul := Nat.mul_le_mul_right f.binade hnext
    rw [Nat.succ_mul] at hmul
    have := (naturalSignificand_bounds hf hm).2
    have := (naturalSignificand_bounds hf hn).1
    omega
  · have hsame : f.naturalExponent m = f.naturalExponent n := by
      rw [BinaryFormat.naturalExponent, BinaryFormat.naturalExponent, heq]
    obtain ⟨hle, hden⟩ := scaledQuotient_mono h (f.naturalExponent n)
    rw [BinaryFormat.naturalSignificand, BinaryFormat.naturalSignificand, hsame, hden]
    exact Nat.add_le_add_left (roundedQuotient_mono hle) _

end Rounding

namespace Binary

open BinaryFormat

section Order

variable (hf : f.IsProper)

include hf

private theorem pattern_ofNat (n : Nat) : (ofNat n : Binary f).pattern = nearestPattern f n 1 :=
  pattern_ofPattern ((nearestPattern_le_infinity f n 1).trans_lt (infinity_lt hf)) false

private theorem infinity_pos : 0 < f.infinity := by
  have htwo := two_le_reach hf
  rw [infinity_eq hf]
  exact Nat.mul_pos (by omega) f.binade_pos

private theorem negative_ofNat (n : Nat) : (ofNat n : Binary f).negative = false :=
  negative_ofPattern hf ((nearestPattern_le_infinity f n 1).trans_lt (infinity_lt hf)) false

/-- The order of naturals is that of their numbers, up to numbers that are equal. -/
theorem orderKey_ofNat_mono (h : m ≤ n) :
    (ofNat m : Binary f).orderKey ≤ (ofNat n : Binary f).orderKey := by
  have hpattern := nearestPattern_mono hf h
  simp only [orderKey, negative_ofNat hf, pattern_ofNat hf, Bool.false_eq_true, if_false]
  omega

theorem isPositive_ofNat (n : Nat) : (ofNat n : Binary f).isPositive = true ↔ 0 < n := by
  have hle := nearestPattern_le_infinity f n 1
  have hzero : nearestPattern f n 1 = 0 ↔ n = 0 := by
    constructor
    · intro hpattern
      by_contra hn
      have hbinade := f.binade_pos
      have hinfinity := infinity_pos hf
      have hlow := (naturalSignificand_bounds hf hn).1
      rw [nearestPattern_natural hf hn] at hpattern
      omega
    · rintro rfl
      rfl
  simp only [isPositive, isNaN, isZero, negative_ofNat hf, pattern_ofNat hf, Bool.not_false,
    Bool.and_true, Bool.and_eq_true, Bool.not_eq_true', decide_eq_false_iff_not,
    beq_eq_false_iff_ne, ne_eq, hzero]
  omega

end Order

private theorem units_eq (field : Nat) {significand : Nat} (hlow : f.binade ≤ significand)
    (hhigh : significand < 2 * f.binade) :
    f.units (field * f.binade + significand) = significand * 2 ^ field := by
  obtain ⟨fraction, rfl⟩ := Nat.exists_eq_add_of_le hlow
  have hrest : fraction < f.binade := by omega
  have hsplit : field * f.binade + (f.binade + fraction) = f.binade * (field + 1) + fraction := by
    rw [Nat.mul_comm, Nat.mul_succ, Nat.add_assoc]
  rw [hsplit, units, Nat.mul_add_div f.binade_pos, Nat.div_eq_of_lt hrest, Nat.mul_add_mod,
    Nat.mod_eq_of_lt hrest]
  simp

section Exact

variable (hf : f.IsProper) (hreach : f.precision < f.reach) (hn : n ≤ 2 ^ f.precision)

include hf hn

private theorem naturalSignificand_exact (hpos : n ≠ 0) :
    f.naturalSignificand n < 2 * f.binade ∧
      (f.naturalSignificand n : ℚ) * 2 ^ f.naturalExponent n = n := by
  obtain ⟨hden, hvalue⟩ := scaledQuotient_value Nat.one_pos n (f.naturalExponent n)
  have hfits := (scaledQuotient_natural hf hpos).2
  have hlog := log2_le_of_le_two_pow hpos hn
  have hwhole : (scaledQuotient n 1 (f.naturalExponent n)).2 ∣
      (scaledQuotient n 1 (f.naturalExponent n)).1 := by
    rcases Nat.lt_or_eq_of_le hlog with hlt | heq
    · unfold scaledQuotient
      split
      · rename_i hexponent
        have hnone : f.naturalExponent n = 0 := by
          rw [naturalExponent] at hexponent ⊢
          omega
        simp [hnone]
      · exact one_dvd _
    · have hpower : n = 2 ^ f.precision := le_antisymm hn (heq ▸ Nat.log2_self_le hpos)
      have hexponent : f.naturalExponent n = 1 := by
        rw [naturalExponent]
        omega
      rw [hexponent, hpower]
      exact dvd_pow_self 2 (Nat.ne_of_gt hf.precision_pos)
  obtain ⟨significand, hscaled⟩ := hwhole
  rw [hscaled, Nat.mul_div_cancel_left _ hden] at hfits
  rw [naturalSignificand, hscaled, Nat.mul_comm, roundedQuotient_mul significand hden]
  refine ⟨hfits, ?_⟩
  rw [hscaled, Nat.cast_mul, mul_div_cancel_left₀ _ (Nat.cast_ne_zero.mpr hden.ne'), Nat.cast_one,
    div_one] at hvalue
  rw [hvalue, div_mul_cancel₀ _ (zpow_ne_zero _ (by norm_num))]

include hreach

private theorem nearestPattern_exact (hpos : n ≠ 0) :
    nearestPattern f n 1 =
        (f.naturalExponent n - f.leastExponent).toNat * f.binade + f.naturalSignificand n ∧
      nearestPattern f n 1 < f.infinity := by
  have hlog := log2_le_of_le_two_pow hpos hn
  have hfew : (f.naturalExponent n - f.leastExponent).toNat + 2 ≤ 2 * f.reach - 1 := by
    have := hf.precision_pos
    rw [leastExponent_eq, naturalExponent]
    omega
  have hmul := Nat.mul_le_mul_right f.binade hfew
  rw [Nat.add_mul, ← infinity_eq hf] at hmul
  have hfits := (naturalSignificand_exact hf hn hpos).1
  have hinside : (f.naturalExponent n - f.leastExponent).toNat * f.binade +
      f.naturalSignificand n < f.infinity := by omega
  rw [nearestPattern_natural hf hpos, min_eq_right hinside.le]
  exact ⟨rfl, hinside⟩

/-- A natural with no more bits than the precision is its own number, and so is the next power of
two. -/
theorem value_ofNat : (ofNat n : Binary f).isFinite = true ∧ (ofNat n : Binary f).value = n := by
  rcases Nat.eq_zero_or_pos n with rfl | hpos
  · have hpattern : (ofNat 0 : Binary f).pattern = 0 := pattern_ofNat hf 0
    have hfinite : (ofNat 0 : Binary f).isFinite = true := by
      rw [isFinite, hpattern]
      exact decide_eq_true (infinity_pos hf)
    refine ⟨hfinite, ?_⟩
    rw [Nat.cast_zero, value_eq_zero_iff hfinite, isZero, hpattern]
    rfl
  · obtain ⟨hpattern, hinside⟩ := nearestPattern_exact hf hreach hn hpos.ne'
    obtain ⟨hhigh, hvalue⟩ := naturalSignificand_exact hf hn hpos.ne'
    have hlow := (naturalSignificand_bounds hf hpos.ne').1
    have hleast := leastExponent_le hf n
    have hfinite : (ofNat n : Binary f).isFinite = true := by
      rw [isFinite, pattern_ofNat hf]
      exact decide_eq_true hinside
    refine ⟨hfinite, ?_⟩
    generalize hfield : (f.naturalExponent n - f.leastExponent).toNat = field at hpattern
    have hexponent : (field : ℤ) + f.leastExponent = f.naturalExponent n := by omega
    calc (ofNat n : Binary f).value
        = f.naturalSignificand n * 2 ^ field * 2 ^ f.leastExponent := by
          rw [value_eq_units hfinite, negative_ofNat hf, pattern_ofNat hf, hpattern,
            units_eq field hlow hhigh]
          simp
      _ = f.naturalSignificand n * 2 ^ f.naturalExponent n := by
          rw [← hexponent, zpow_add₀ (by norm_num), zpow_natCast, mul_assoc]
      _ = n := hvalue

theorem toInt?_ofNat : (ofNat n : Binary f).toInt? = some (n : ℤ) := by
  obtain ⟨hfinite, hvalue⟩ := value_ofNat hf hreach hn
  exact toInt?_eq_some_iff.mpr ⟨hfinite, by exact_mod_cast hvalue⟩

theorem ofNat_inj (hm : m ≤ 2 ^ f.precision) (h : (ofNat m : Binary f) = ofNat n) : m = n := by
  have hvalue := (value_ofNat hf hreach hm).2
  rw [h, (value_ofNat hf hreach hn).2] at hvalue
  exact_mod_cast hvalue.symm

end Exact

end Binary

end PagedSearch
