import Mathlib.Algebra.Group.Nat.Defs
import PagedSearch.Number.Decimal
import PagedSearch.Proofs.Number.Magnitude
import PagedSearch.Number.Reading

/-!
# Values of shortest decimals

The digits of a natural are read back as the natural, and their number tells between which powers of
ten it lies. The shortest decimal of a number is one of the values that round to the number. So it
is not zero, and its first digit stands no higher than the largest number of the format.
-/

namespace PagedSearch

section Digits

variable {n : Nat}

theorem isDigit_of_mem_toDigits : ∀ c ∈ Nat.toDigits 10 n, isDigit c = true := by
  intro c hc
  have hdigit := Nat.isDigit_of_mem_toDigits (by decide) (by decide) hc
  rw [Char.isDigit, Bool.and_eq_true, decide_eq_true_eq, decide_eq_true_eq] at hdigit
  rw [isDigit, Bool.and_eq_true, decide_eq_true_eq, decide_eq_true_eq]
  exact hdigit

theorem digitsValue_toDigits (n : Nat) : digitsValue (Nat.toDigits 10 n) = n :=
  Nat.ofDigitChars_toDigits (by decide) (by decide)

private theorem digitChar_ne_zero : ∀ n < 10, n ≠ 0 → n.digitChar ≠ '0' := by decide

theorem head?_toDigits (h : n ≠ 0) : (Nat.toDigits 10 n).head? ≠ some '0' := by
  induction n using Nat.strongRecOn with
  | ind n ih =>
    rcases Nat.lt_or_ge n 10 with hsmall | hlarge
    · rw [Nat.toDigits_of_lt_base hsmall, List.head?_cons, ne_eq, Option.some.injEq]
      exact digitChar_ne_zero n hsmall h
    · obtain ⟨c, rest, hcons⟩ := List.exists_cons_of_ne_nil (Nat.toDigits_ne_nil (n := n / 10))
      have hhead := ih (n / 10) (by omega) (by omega)
      rw [hcons] at hhead
      rw [Nat.toDigits_of_base_le (by decide) hlarge, hcons]
      exact hhead

private theorem lt_pow_length_toDigits (n : Nat) : n < 10 ^ (Nat.toDigits 10 n).length :=
  (Nat.length_toDigits_le_iff (by decide) Nat.length_toDigits_pos).mp (Nat.le_refl _)

private theorem pow_length_toDigits_le (h : n ≠ 0) : 10 ^ ((Nat.toDigits 10 n).length - 1) ≤ n := by
  have hlength : 0 < (Nat.toDigits 10 n).length := Nat.length_toDigits_pos
  apply Nat.le_of_not_lt
  intro hlt
  rcases Nat.eq_zero_or_pos ((Nat.toDigits 10 n).length - 1) with hone | hmore
  · rw [hone] at hlt
    omega
  · have hle := (Nat.length_toDigits_le_iff (by decide) hmore).mpr hlt
    omega

end Digits

private theorem zpow_mul_pow_neg {b : ℚ} (hb : b ≠ 0) (e : ℤ) :
    b ^ e * b ^ (-e).toNat = b ^ e.toNat := by
  rw [← zpow_natCast, ← zpow_natCast, ← zpow_add₀ hb]
  congr 1
  omega

namespace Decimal

variable {d : Decimal}

def value (d : Decimal) : ℚ := d.digits * (10 : ℚ) ^ d.exponent

private theorem stripZeros_value (n : Nat) (d : Decimal) : (stripZeros n d).value = d.value := by
  induction n generalizing d with
  | zero => rfl
  | succ n ih =>
    rw [stripZeros]
    split
    · rename_i hzero
      simp only [Bool.and_eq_true, decide_eq_true_eq] at hzero
      have hdigits : d.digits = 10 * (d.digits / 10) := by omega
      rw [ih, value, value, zpow_add₀ (by norm_num), zpow_one]
      conv_rhs => rw [hdigits]
      push_cast
      ring
    · rfl

private theorem stripZeros_digits (n : Nat) (h : d.digits ≠ 0) : (stripZeros n d).digits ≠ 0 := by
  intro hzero
  have hvalue := stripZeros_value n d
  rw [value, hzero, Nat.cast_zero, zero_mul, value, eq_comm, mul_eq_zero] at hvalue
  rcases hvalue with hdigits | hpow
  · exact h (Nat.cast_eq_zero.mp hdigits)
  · exact zpow_ne_zero _ (by norm_num) hpow

private theorem pow_leadExponent_le (h : d.digits ≠ 0) : (10 : ℚ) ^ d.leadExponent ≤ d.value := by
  have hlength : 0 < d.digitChars.length := Nat.length_toDigits_pos
  have hlead : d.leadExponent = (d.digitChars.length - 1 : Nat) + d.exponent := by
    rw [leadExponent]
    omega
  rw [hlead, zpow_add₀ (by norm_num), zpow_natCast, value]
  gcongr
  exact_mod_cast pow_length_toDigits_le h

namespace Interval

variable {i : Interval} {tie : TieRule} {ten : ℤ} {m n : Nat}

def unit (i : Interval) : ℚ := 2 ^ i.exponent

private theorem factors_pos (i : Interval) (ten : ℤ) :
    0 < (i.factors ten).1 ∧ 0 < (i.factors ten).2 := by
  have hpow (b k : Nat) (hb : 0 < b) : 0 < Nat.pow b k := Nat.pow_pos hb
  exact ⟨Nat.mul_pos (hpow 2 _ (by decide)) (hpow 10 _ (by decide)),
    Nat.mul_pos (hpow 2 _ (by decide)) (hpow 10 _ (by decide))⟩

private theorem factors_ratio (i : Interval) (ten : ℤ) :
    ((i.factors ten).1 : ℚ) * 10 ^ ten = (i.factors ten).2 * i.unit := by
  have htwo := zpow_mul_pow_neg (b := 2) (by norm_num) i.exponent
  have hten := zpow_mul_pow_neg (b := 10) (by norm_num) ten
  simp only [factors, unit, Nat.pow_eq, Nat.cast_mul, Nat.cast_pow, Nat.cast_ofNat]
  rw [← htwo, ← hten]
  ring

def ofUnits (i : Interval) (ten : ℤ) (n : Nat) : ℚ := n * 10 ^ ten / (i.factors ten).2

private theorem ofUnits_le_iff : i.ofUnits ten m ≤ i.ofUnits ten n ↔ m ≤ n := by
  have hdecimal : (0 : ℚ) < (i.factors ten).2 := Nat.cast_pos.mpr (i.factors_pos ten).2
  have hten : (0 : ℚ) < 10 ^ ten := by positivity
  rw [ofUnits, ofUnits, div_le_div_iff_of_pos_right hdecimal, mul_le_mul_iff_left₀ hten,
    Nat.cast_le]

private theorem ofUnits_binary (n : Nat) : i.ofUnits ten (n * (i.factors ten).1) = n * i.unit := by
  have hdecimal : ((i.factors ten).2 : ℚ) ≠ 0 := Nat.cast_ne_zero.mpr (i.factors_pos ten).2.ne'
  rw [ofUnits, Nat.cast_mul, mul_assoc, i.factors_ratio ten, div_eq_iff hdecimal]
  ring

private theorem ofUnits_decimal (n : Nat) :
    i.ofUnits ten (n * (i.factors ten).2) = n * 10 ^ ten := by
  have hdecimal : ((i.factors ten).2 : ℚ) ≠ 0 := Nat.cast_ne_zero.mpr (i.factors_pos ten).2.ne'
  rw [ofUnits, Nat.cast_mul, div_eq_iff hdecimal]
  ring

structure Fits (i : Interval) (d : Decimal) : Prop where
  digits_ne_zero : d.digits ≠ 0
  value_le : d.value ≤ i.upper * i.unit

private theorem fits_of_units (hpos : n ≠ 0)
    (h : n * (i.factors ten).2 ≤ i.upper * (i.factors ten).1) : i.Fits ⟨n, ten⟩ := by
  refine ⟨hpos, ?_⟩
  have hvalue : Decimal.value ⟨n, ten⟩ = i.ofUnits ten (n * (i.factors ten).2) :=
    (ofUnits_decimal n).symm
  rw [hvalue, ← ofUnits_binary]
  exact ofUnits_le_iff.mpr h

private theorem nearest?_cases {d : Decimal} (h : i.nearest? tie ten = some d) : ∃ n, d = ⟨n, ten⟩ ∧
    i.lower * (i.factors ten).1 ≤ n * (i.factors ten).2 ∧
    n * (i.factors ten).2 ≤ i.upper * (i.factors ten).1 := by
  unfold nearest? at h
  generalize i.factors ten = factors at h ⊢
  obtain ⟨binary, decimal⟩ := factors
  dsimp -zeta only at h ⊢
  extract_lets value floor inside below above twice upward at h
  have hinside (n : Nat) (hn : inside n = true) :
      i.lower * binary ≤ n * decimal ∧ n * decimal ≤ i.upper * binary := by
    dsimp only [inside] at hn
    split at hn <;> simp only [Bool.and_eq_true, decide_eq_true_eq] at hn <;> omega
  split at h
  · rename_i hbelow
    cases h
    exact ⟨floor, rfl, hinside floor (Bool.and_eq_true_iff.mp hbelow).1⟩
  · split at h
    · rename_i habove
      cases h
      exact ⟨floor + 1, rfl, hinside (floor + 1) habove⟩
    · cases h

private theorem nearest?_fits {d : Decimal} (hlower : 0 < i.lower)
    (h : i.nearest? tie ten = some d) :
    i.Fits d := by
  obtain ⟨n, rfl, hbelow, habove⟩ := nearest?_cases h
  refine fits_of_units ?_ habove
  rintro rfl
  have hbinary := Nat.mul_pos hlower (i.factors_pos ten).1
  omega

private theorem search_fits (hlower : 0 < i.lower) (hupper : i.value ≤ i.upper) (grids : Nat)
    (hten : (10 : ℚ) ^ ten ≤ i.value * i.unit) : i.Fits (i.search tie grids ten) := by
  induction grids generalizing ten with
  | zero =>
    obtain ⟨hbinary, hdecimal⟩ := i.factors_pos ten
    refine fits_of_units ?_ ?_
    · apply Nat.ne_of_gt
      apply Nat.div_pos _ hdecimal
      rw [← one_mul (i.factors ten).2, ← ofUnits_le_iff (i := i), ofUnits_decimal, ofUnits_binary,
        Nat.cast_one, one_mul]
      exact hten
    · exact (Nat.div_mul_le_self _ _).trans (Nat.mul_le_mul_right _ hupper)
  | succ grids ih =>
    rw [search]
    cases hnearest : i.nearest? tie ten with
    | some d => exact nearest?_fits hlower hnearest
    | none =>
      apply ih
      have hfiner : (10 : ℚ) ^ (ten - 1) ≤ 10 ^ ten :=
        zpow_le_zpow_right₀ (by norm_num) (by omega)
      exact hfiner.trans hten

private theorem leadExponent_le (hvalue : i.value ≠ 0) :
    (10 : ℚ) ^ i.leadExponent ≤ i.value * i.unit := by
  have hunit := zpow_mul_pow_neg (b := 2) (by norm_num) i.exponent
  unfold leadExponent
  extract_lets num den guess
  have hden : (0 : ℚ) < den := Nat.cast_pos.mpr (Nat.pow_pos (by decide))
  have hratio : i.value * i.unit = num / den := by
    rw [eq_div_iff hden.ne', unit, mul_assoc]
    simp only [num, den, Nat.pow_eq, Nat.cast_mul, Nat.cast_pow, Nat.cast_ofNat, hunit]
  rw [hratio, le_div_iff₀ hden]
  split
  · rename_i hguess
    have hscale := zpow_mul_pow_neg (b := 10) (by norm_num) guess
    have hpos : (0 : ℚ) < 10 ^ (-guess).toNat := by positivity
    rw [← mul_le_mul_iff_left₀ hpos, mul_right_comm, hscale]
    exact_mod_cast hguess
  · have hvalue' : num ≠ 0 := Nat.mul_ne_zero hvalue (Nat.ne_of_gt (Nat.pow_pos (by decide)))
    have hnum : (10 : ℚ) ^ ((Nat.toDigits 10 num).length - 1) ≤ num := by
      exact_mod_cast pow_length_toDigits_le hvalue'
    have hlead : (den : ℚ) ≤ 10 ^ (Nat.toDigits 10 den).length := by
      exact_mod_cast (lt_pow_length_toDigits den).le
    have hlength : 0 < (Nat.toDigits 10 num).length := Nat.length_toDigits_pos
    calc (10 : ℚ) ^ (guess - 1) * den
        ≤ 10 ^ (guess - 1) * 10 ^ (Nat.toDigits 10 den).length := by gcongr
      _ = 10 ^ ((Nat.toDigits 10 num).length - 1) := by
        rw [← zpow_natCast, ← zpow_natCast, ← zpow_add₀ (by norm_num)]
        congr 1
        omega
      _ ≤ num := hnum

private theorem Fits.stripZeros {d : Decimal} (h : i.Fits d) (n : Nat) : i.Fits (stripZeros n d) :=
  ⟨stripZeros_digits n h.digits_ne_zero, (stripZeros_value n d).trans_le h.value_le⟩

end Interval

private theorem shortest_fits {f : BinaryFormat} {m : Nat} (hm : m ≠ 0) (tie : TieRule) (e : ℤ) :
    (Interval.ofFinite f m e).Fits (shortest f tie m e) := by
  have hlower : 0 < (Interval.ofFinite f m e).lower := by
    dsimp only [Interval.ofFinite]
    split <;> omega
  have hupper : (Interval.ofFinite f m e).value ≤ (Interval.ofFinite f m e).upper :=
    Nat.le_add_right _ 2
  have hvalue : (Interval.ofFinite f m e).value ≠ 0 := Nat.mul_ne_zero (by decide) hm
  exact (Interval.search_fits hlower hupper digitLimit (Interval.leadExponent_le hvalue)).stripZeros _

end Decimal

namespace Binary

variable {f : BinaryFormat} {x : Binary f} {m : Nat} {e : ℤ}

theorem isFinite_iff : x.isFinite = true ↔ ∃ m e, x.extent = .finite m e := by
  rw [isFinite, decide_eq_true_eq]
  constructor
  · exact exists_extent_of_pattern_lt
  · rintro ⟨m, e, hextent⟩
    exact (extent_eq_finite hextent).1

private theorem shortest_fits (h : x.extent = .finite m e) (hm : m ≠ 0) (tie : TieRule) :
    (Decimal.Interval.ofFinite f m e).Fits (x.shortest tie) := by
  rw [shortest, h]
  cases m with
  | zero => exact absurd rfl hm
  | succ m => exact Decimal.shortest_fits hm tie e

private theorem exists_extent_of_ne_zero (hfinite : x.isFinite = true) (hzero : x.isZero = false) :
    ∃ m e, x.extent = .finite m e ∧ m ≠ 0 := by
  obtain ⟨m, e, hextent⟩ := isFinite_iff.mp hfinite
  refine ⟨m, e, hextent, ?_⟩
  rintro rfl
  rw [isZero, (extent_eq_finite hextent).2.2.2.mp rfl] at hzero
  cases hzero

theorem shortest_of_isZero (hfinite : x.isFinite = true) (hzero : x.isZero = true)
    (tie : TieRule) : x.shortest tie = ⟨0, 0⟩ := by
  obtain ⟨m, e, hextent⟩ := isFinite_iff.mp hfinite
  obtain rfl : m = 0 := (extent_eq_finite hextent).2.2.2.mpr (by simpa [isZero] using hzero)
  rw [shortest, hextent]
  rfl

theorem shortest_digits (hfinite : x.isFinite = true) (hzero : x.isZero = false) (tie : TieRule) :
    (x.shortest tie).digits ≠ 0 := by
  obtain ⟨m, e, hextent, hm⟩ := exists_extent_of_ne_zero hfinite hzero
  exact (shortest_fits hextent hm tie).digits_ne_zero

private theorem pow_leadExponent_lt (hf : f.IsProper) (hfinite : x.isFinite = true)
    (hzero : x.isZero = false) (tie : TieRule) :
    (10 : ℚ) ^ (x.shortest tie).leadExponent < 2 ^ f.reach := by
  obtain ⟨m, e, hextent, hm⟩ := exists_extent_of_ne_zero hfinite hzero
  obtain ⟨hpattern, hsignificand, he, -⟩ := extent_eq_finite hextent
  have hfits := shortest_fits hextent hm tie
  have hupper : 4 * m + 2 < 2 ^ (f.precision + 2) := by
    rw [pow_add, ← f.two_mul_binade hf]
    omega
  have hfield : x.pattern / f.binade < 2 * f.reach - 1 := by
    rw [f.infinity_eq hf] at hpattern
    exact Nat.div_lt_of_lt_mul (by rwa [Nat.mul_comm])
  have hexponent : (f.precision + 2 : Nat) + (e - 2) ≤ f.reach := by
    have := f.two_le_reach hf
    rw [he, f.leastExponent_eq]
    omega
  calc (10 : ℚ) ^ (x.shortest tie).leadExponent
      ≤ (x.shortest tie).value := Decimal.pow_leadExponent_le hfits.digits_ne_zero
    _ ≤ (4 * m + 2 : Nat) * 2 ^ (e - 2) := hfits.value_le
    _ < 2 ^ (f.precision + 2) * 2 ^ (e - 2) := by
      gcongr
      exact_mod_cast hupper
    _ = 2 ^ ((f.precision + 2 : Nat) + (e - 2)) := by
      rw [zpow_add₀ (by norm_num), zpow_natCast]
    _ ≤ 2 ^ (f.reach : ℤ) := zpow_le_zpow_right₀ (by norm_num) hexponent
    _ = 2 ^ f.reach := zpow_natCast _ _

theorem leadExponent_le_single {x : Binary32} (hfinite : x.isFinite = true)
    (hzero : x.isZero = false) (tie : TieRule) : (x.shortest tie).leadExponent ≤ 38 := by
  have hlt := pow_leadExponent_lt BinaryFormat.isProper_single hfinite hzero tie
  have hreach : (2 : ℚ) ^ BinaryFormat.single.reach ≤ 10 ^ (39 : ℤ) := by
    norm_num [BinaryFormat.reach, BinaryFormat.single]
  have hpow := (zpow_lt_zpow_iff_right₀ (by norm_num)).mp (hlt.trans_le hreach)
  omega

end Binary

end PagedSearch
