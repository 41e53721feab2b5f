import PagedSearch.Proofs.Number.Shortest
import PagedSearch.Proofs.Number.Sign
import PagedSearch.Proofs.Number.TotalOrder

/-!
# Exact numbers

A quotient that is the value of a number rounds to that number. So an integer that some number has
as its value is rounded to it, and read back from it.
-/

namespace PagedSearch

variable {f : BinaryFormat}

theorem roundedQuotient_mul (n : Nat) {den : Nat} (hden : 0 < den) :
    roundedQuotient (n * den) den = n := by
  unfold roundedQuotient
  dsimp only
  rw [Nat.mul_div_cancel _ hden, Nat.mul_mod_left, if_neg]
  simp
  omega

namespace Binary

open BinaryFormat

variable {x y : Binary f} {m num den : Nat} {e : ℤ}

private theorem pattern_eq (h : x.extent = .finite m e) :
    f.leastExponent ≤ e ∧ x.pattern = (e - f.leastExponent).toNat * f.binade + m ∧
      (e = f.leastExponent ∨ f.binade ≤ m) := by
  have hdiv := Nat.div_add_mod' x.pattern f.binade
  unfold extent at h
  dsimp only at h
  split at h
  · cases h
  split at h
  · cases h
  split at h
  · rename_i hfield
    cases h
    rw [hfield] at hdiv
    refine ⟨le_rfl, ?_, .inl rfl⟩
    rw [sub_self, Int.toNat_zero]
    omega
  · rename_i hfield
    cases h
    refine ⟨by omega, ?_, .inr (Nat.le_add_right _ _)⟩
    rw [add_sub_cancel_left, Int.toNat_natCast, ← Nat.add_assoc, ← Nat.succ_mul,
      Nat.succ_eq_add_one, Nat.sub_add_cancel (Nat.one_le_iff_ne_zero.mpr hfield)]
    exact hdiv.symm

section Value

variable (hf : f.IsProper) (h : x.extent = .finite m e) (hden : 0 < den)
  (hvalue : (num : ℚ) / den = m * 2 ^ e)

include hf h hden hvalue

private theorem exponent_of_extent (hnum : num ≠ 0) :
    let trial : ℤ := (num.log2 : ℤ) - den.log2 - f.precision
    max f.leastExponent
      (if (scaledQuotient num den trial).1 / (scaledQuotient num den trial).2 < 2 ^ f.precision
        then trial else trial + 1) = e := by
  intro trial
  obtain ⟨-, hm, -⟩ := extent_eq_finite h
  obtain ⟨hleast, -, hleading⟩ := pattern_eq h
  have hlow := log2_lt_quotient hden hnum
  have hhigh := quotient_lt_log2 hden num
  have hfits := scaledQuotient_div_lt_iff hden num f.precision trial
  rw [hvalue] at hlow hhigh hfits
  have hmul : (m : ℚ) * 2 ^ e < 2 ^ ((f.precision : ℤ) + e) := by
    rw [zpow_add₀ (by norm_num), zpow_natCast]
    rw [two_mul_binade hf] at hm
    gcongr
    exact_mod_cast hm
  have hfirst := (zpow_lt_zpow_iff_right₀ (by norm_num)).mp (hlow.trans hmul)
  have htrial : trial ≤ e := by omega
  rcases Int.lt_or_eq_of_le htrial with hbelow | heq
  · rcases hleading with rfl | hleading
    · split <;> omega
    · -- the leading one shows that the trial is too low by one
      have hbinade : (2 : ℚ) ^ ((f.precision : ℤ) - 1 + e) ≤ m * 2 ^ e := by
        rw [zpow_add₀ (by norm_num)]
        gcongr
        rw [← Int.natCast_pred_of_pos hf.precision_pos, zpow_natCast]
        exact_mod_cast hleading
      have hlast := (zpow_lt_zpow_iff_right₀ (by norm_num)).mp (hbinade.trans_lt hhigh)
      have hnext : trial + 1 = e := by omega
      have hlarge : (2 : ℚ) ^ ((f.precision : ℤ) + trial) ≤ m * 2 ^ e :=
        (zpow_le_zpow_right₀ (by norm_num) (by omega)).trans hbinade
      rw [if_neg (fun hlt => not_lt.mpr hlarge (hfits.mp hlt)), hnext, max_eq_right hleast]
  · rw [← heq] at hmul hleast
    rw [if_pos (hfits.mpr (heq ▸ hmul)), max_eq_right hleast, heq]

theorem nearestPattern_of_extent : nearestPattern f num den = x.pattern := by
  obtain ⟨hpattern, -, -, hzero⟩ := extent_eq_finite h
  obtain ⟨-, hparts, -⟩ := pattern_eq h
  have hunit : (2 : ℚ) ^ e ≠ 0 := zpow_ne_zero e (by norm_num)
  unfold nearestPattern
  split
  · rename_i hnum
    rw [hnum, Nat.cast_zero, zero_div, eq_comm, mul_eq_zero, or_iff_left hunit,
      Nat.cast_eq_zero] at hvalue
    exact (hzero.mp hvalue).symm
  · rename_i hnum
    dsimp only
    rw [Nat.pow_eq, exponent_of_extent hf h hden hvalue hnum]
    obtain ⟨hpos, hscaled⟩ := scaledQuotient_value hden num e
    have hexact : (scaledQuotient num den e).1 = m * (scaledQuotient num den e).2 := by
      rw [hvalue, mul_div_cancel_right₀ _ hunit,
        div_eq_iff (Nat.cast_ne_zero.mpr hpos.ne')] at hscaled
      exact_mod_cast hscaled
    rw [hexact, roundedQuotient_mul m hpos, ← hparts]
    exact min_eq_right hpattern.le

end Value

private theorem eq_of_pattern (hsign : x.negative = y.negative) (hpattern : x.pattern = y.pattern) :
    x = y := by
  apply orderKey_injective
  rw [orderKey, orderKey, hsign, hpattern]

private theorem ofPattern_pattern (hf : f.IsProper) (x : Binary f) (h : x.isFinite = true) :
    ofPattern x.negative x.pattern = x := by
  have hlt : x.pattern < 2 ^ (f.width - 1) :=
    (of_decide_eq_true h).trans (infinity_lt hf)
  exact eq_of_pattern (negative_ofPattern hf hlt _) (pattern_ofPattern hlt _)

theorem value_of_extent (h : x.extent = .finite m e) :
    x.value = (if x.negative then -1 else 1) * (m * 2 ^ e) := by
  rw [value, h]
  exact mul_assoc _ _ _

theorem value_eq_zero_iff (h : x.isFinite = true) : x.value = 0 ↔ x.isZero = true := by
  obtain ⟨m, e, hextent⟩ := isFinite_iff.mp h
  have hunit : (2 : ℚ) ^ e ≠ 0 := zpow_ne_zero e (by norm_num)
  rw [isZero, beq_iff_eq, ← (extent_eq_finite hextent).2.2.2, value_of_extent hextent]
  cases x.negative <;> simp [hunit]

private theorem natAbs_of_value {n : ℤ} (h : x.extent = .finite m e) (hvalue : x.value = n) :
    (n.natAbs : ℚ) = m * 2 ^ e := by
  have hsize : (0 : ℚ) ≤ m * 2 ^ e := by positivity
  rw [Nat.cast_natAbs, Int.cast_abs, ← hvalue, value_of_extent h]
  cases x.negative
  · rw [if_neg Bool.false_ne_true, one_mul, abs_of_nonneg hsize]
  · rw [if_pos rfl, neg_one_mul, abs_neg, abs_of_nonneg hsize]

private theorem negative_of_value {n : ℤ} (h : x.extent = .finite m e) (hvalue : x.value = n)
    (hn : n ≠ 0) : x.negative = decide (n < 0) := by
  have hsize : (0 : ℚ) ≤ m * 2 ^ e := by positivity
  rw [value_of_extent h] at hvalue
  cases hsign : x.negative with
  | false =>
    rw [hsign, if_neg Bool.false_ne_true, one_mul] at hvalue
    have hpos : (0 : ℚ) ≤ n := hvalue ▸ hsize
    exact (decide_eq_false (not_lt.mpr (by exact_mod_cast hpos))).symm
  | true =>
    rw [hsign, if_pos rfl, neg_one_mul] at hvalue
    have hneg : (n : ℚ) ≤ 0 := hvalue ▸ neg_nonpos.mpr hsize
    exact (decide_eq_true (lt_of_le_of_ne (by exact_mod_cast hneg) hn)).symm

/-- Zero apart, an integer that is the value of a number is rounded to that number. -/
theorem ofInt_of_value (hf : f.IsProper) {n : ℤ} (hfinite : x.isFinite = true)
    (hvalue : x.value = n) (hn : n ≠ 0) : ofInt n = x := by
  obtain ⟨m, e, hextent⟩ := isFinite_iff.mp hfinite
  have hpattern : nearestPattern f n.natAbs 1 = x.pattern := by
    apply nearestPattern_of_extent hf hextent Nat.one_pos
    rw [Nat.cast_one, div_one, natAbs_of_value hextent hvalue]
  rw [ofInt, ofQuotient, hpattern, ← negative_of_value hextent hvalue hn,
    ofPattern_pattern hf x hfinite]

theorem eq_zero_of_value (hf : f.IsProper) (hfinite : x.isFinite = true) (hvalue : x.value = 0) :
    x = zero x.negative := by
  have hpattern : x.pattern = 0 := by
    simpa [isZero] using (value_eq_zero_iff hfinite).mp hvalue
  rw [zero, ← hpattern, ofPattern_pattern hf x hfinite]

private theorem signed_eq_iff {negative : Bool} {n : Nat} {i : ℤ} :
    signed negative n = i ↔ (if negative then -1 else 1) * (n : ℚ) = i := by
  cases negative
  · rw [signed, if_neg Bool.false_ne_true, if_neg Bool.false_ne_true, one_mul]
    exact_mod_cast Iff.rfl
  · rw [signed, if_pos rfl, if_pos rfl, neg_one_mul]
    exact_mod_cast Iff.rfl

/-- A number is read as an integer if that is its value. -/
theorem toInt?_eq_some_iff {n : ℤ} : x.toInt? = some n ↔ x.isFinite = true ∧ x.value = n := by
  rw [isFinite_iff, toInt?]
  rcases hextent : x.extent with - | - | ⟨m, e⟩
  case nan | infinite => simp
  have hvalue := value_of_extent hextent
  rw [and_iff_right ⟨m, e, rfl⟩]
  dsimp only
  split
  · rename_i he
    obtain ⟨k, rfl⟩ := Int.eq_ofNat_of_zero_le he
    rw [Option.some_inj, signed_eq_iff, hvalue, Int.toNat_natCast, zpow_natCast, Nat.pow_eq]
    push_cast
    rfl
  · rename_i he
    obtain ⟨k, hk⟩ := Int.eq_ofNat_of_zero_le (a := -e) (by omega)
    obtain rfl : e = -k := by omega
    have hunit : (2 : ℚ) ^ k ≠ 0 := pow_ne_zero k (by norm_num)
    rw [zpow_neg, zpow_natCast, ← div_eq_mul_inv] at hvalue
    rw [neg_neg, Int.toNat_natCast, Nat.pow_eq]
    split
    · rename_i hwhole
      obtain ⟨q, rfl⟩ := Nat.dvd_of_mod_eq_zero hwhole
      rw [Nat.cast_mul, Nat.cast_pow, Nat.cast_ofNat, mul_div_cancel_left₀ _ hunit] at hvalue
      rw [Option.some_inj, signed_eq_iff, hvalue, Nat.mul_div_cancel_left _ (Nat.two_pow_pos k)]
    · rename_i hpart
      -- an integer would make the significand a multiple of the unit
      refine iff_of_false (by simp) fun hn => hpart ?_
      have habs := natAbs_of_value hextent hn
      rw [zpow_neg, zpow_natCast, ← div_eq_mul_inv, eq_div_iff hunit] at habs
      have hwhole : n.natAbs * 2 ^ k = m := by exact_mod_cast habs
      rw [← hwhole, Nat.mul_mod_left]

end Binary

end PagedSearch
