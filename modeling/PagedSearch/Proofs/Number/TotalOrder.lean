import Mathlib.Order.Monotone.Basic
import Mathlib.Algebra.Group.Nat.Defs
import PagedSearch.Proofs.Number.Magnitude

/-!
# The total order of IEEE 754

Every pattern has a place of its own in the order by key, which is the total order of the standard:
finite numbers by value with the negative zero before the positive one, infinities outside of them
and not-a-number patterns outside of these, on the side of their sign.
-/

namespace PagedSearch

namespace Binary

variable {f : BinaryFormat}

private theorem eq_mod_add_leading {w n : Nat} (hn : n < 2 ^ w) :
    n = n % 2 ^ (w - 1) + if 2 ^ (w - 1) ≤ n then 2 ^ (w - 1) else 0 := by
  cases w with
  | zero =>
    obtain rfl : n = 0 := by omega
    rfl
  | succ w =>
    have htwice : 2 ^ (w + 1) = 2 * 2 ^ w := Nat.pow_succ'
    simp only [Nat.add_sub_cancel]
    split
    · rename_i hle
      rw [Nat.mod_eq_sub_mod hle, Nat.mod_eq_of_lt (by omega)]
      omega
    · rw [Nat.mod_eq_of_lt (by omega)]
      rfl

private theorem toNat_eq (x : Binary f) :
    x.bits.toNat = x.pattern + if x.negative then Nat.pow 2 (f.width - 1) else 0 := by
  simpa [pattern, negative, BitVec.msb_eq_decide] using eq_mod_add_leading x.bits.isLt

theorem orderKey_injective : Function.Injective (orderKey (f := f)) := by
  intro x y h
  have hsign : x.negative = y.negative := by
    unfold orderKey at h
    cases hx : x.negative <;> cases hy : y.negative <;> simp only [hx, hy] at h <;>
      first | rfl | (simp at h; omega)
  have hpattern : x.pattern = y.pattern := by
    unfold orderKey at h
    rw [hsign] at h
    split at h <;> omega
  have hbits : x.bits = y.bits := by
    apply BitVec.eq_of_toNat_eq
    rw [toNat_eq, toNat_eq, hsign, hpattern]
  cases x
  cases y
  simpa using hbits

theorem eq_of_compareTotal_eq {x y : Binary f} (h : x.compareTotal y = .eq) : x = y :=
  orderKey_injective (Int.compare_eq_eq.mp h)

end Binary

/-- The value of a finite pattern in units of the smallest positive number. -/
def BinaryFormat.units (f : BinaryFormat) (pattern : Nat) : Nat :=
  if pattern / f.binade = 0 then pattern
  else (f.binade + pattern % f.binade) * 2 ^ (pattern / f.binade - 1)

namespace Binary

variable {f : BinaryFormat}

/-- How far outside of the numbers a pattern stands, counted to the side of its sign. -/
def outside (x : Binary f) : Int :=
  let distance : Int := if x.isNaN then 2 else if x.isInfinite then 1 else 0
  if x.negative then -distance else distance

/-- The strict total order of IEEE 754. Of two not-a-number patterns with one sign the quiet one is
farther outside, and then the one with the greater payload, which is how their bits read. -/
def PrecedesTotally (x y : Binary f) : Prop :=
  if x.isFinite ∧ y.isFinite then
    x.value < y.value ∨ x.value = y.value ∧ x.negative ∧ ¬ y.negative
  else
    x.outside < y.outside ∨ x.outside = y.outside ∧
      if x.negative then y.pattern < x.pattern else x.pattern < y.pattern

end Binary

namespace BinaryFormat

variable {f : BinaryFormat}

private theorem units_succ (f : BinaryFormat) (pattern : Nat) :
    f.units (pattern + 1) = f.units pattern + 2 ^ (pattern / f.binade - 1) := by
  have hpos := f.binade_pos
  have hdiv := Nat.div_add_mod pattern f.binade
  have hmod : pattern % f.binade < f.binade := Nat.mod_lt _ hpos
  generalize hfield : pattern / f.binade = field at hdiv ⊢
  generalize hfraction : pattern % f.binade = fraction at hdiv hmod ⊢
  rcases Nat.lt_or_ge (fraction + 1) f.binade with hinside | hcarry
  · have hfield' : (pattern + 1) / f.binade = field := by
      rw [← hdiv, Nat.add_assoc, Nat.mul_add_div hpos, Nat.div_eq_of_lt hinside, Nat.add_zero]
    have hfraction' : (pattern + 1) % f.binade = fraction + 1 := by
      rw [← hdiv, Nat.add_assoc, Nat.mul_add_mod, Nat.mod_eq_of_lt hinside]
    rw [units, units, hfield, hfraction, hfield', hfraction']
    cases field with
    | zero => simp
    | succ field => simp [Nat.add_mul, Nat.add_assoc]
  · -- the fraction is full, so the next pattern opens the next field
    have hnext : pattern + 1 = f.binade * (field + 1) := by
      rw [Nat.mul_succ]
      omega
    have hfield' : (pattern + 1) / f.binade = field + 1 := by
      rw [hnext, Nat.mul_div_cancel_left _ hpos]
    have hfraction' : (pattern + 1) % f.binade = 0 := by rw [hnext, Nat.mul_mod_right]
    rw [units, units, hfield, hfraction, hfield', hfraction']
    cases field with
    | zero =>
      simp only [Nat.zero_add, Nat.mul_one] at hnext
      simp [hnext]
    | succ field =>
      have hfull : f.binade + fraction + 1 = 2 * f.binade := by omega
      simp only [Nat.succ_ne_zero, if_false, Nat.add_sub_cancel, Nat.add_zero]
      rw [← Nat.succ_mul, Nat.succ_eq_add_one, hfull, Nat.pow_succ]
      ring

private theorem units_strictMono (f : BinaryFormat) : StrictMono f.units :=
  strictMono_nat_of_lt_succ fun pattern => by
    rw [units_succ]
    exact Nat.lt_add_of_pos_right (Nat.two_pow_pos _)

end BinaryFormat

namespace Binary

open BinaryFormat

variable {f : BinaryFormat} {x y : Binary f}

theorem value_eq_units (h : x.isFinite = true) :
    x.value = (if x.negative then -1 else 1) * f.units x.pattern * (2 : ℚ) ^ f.leastExponent := by
  have hlt : x.pattern < f.infinity := by simpa [isFinite] using h
  have hextent : x.extent =
      if x.pattern / f.binade = 0 then .finite (x.pattern % f.binade) f.leastExponent
      else .finite (f.binade + x.pattern % f.binade)
        (f.leastExponent + (x.pattern / f.binade - 1 : Nat)) := by
    unfold extent
    dsimp only
    rw [if_neg (by omega), if_neg (by omega)]
  rw [value, hextent, units]
  by_cases hfield : x.pattern / f.binade = 0
  · have hmod : x.pattern % f.binade = x.pattern :=
      Nat.mod_eq_of_lt ((Nat.div_eq_zero_iff_lt f.binade_pos).mp hfield)
    simp only [hfield, if_true, hmod]
  · simp only [hfield, if_false]
    rw [zpow_add₀ (by decide), zpow_natCast]
    push_cast
    ring

private theorem orderKey_lt_iff_of_finite (hx : x.isFinite = true) (hy : y.isFinite = true) :
    x.orderKey < y.orderKey ↔
      x.value < y.value ∨ x.value = y.value ∧ x.negative ∧ ¬ y.negative := by
  have hunit : (0 : ℚ) < 2 ^ f.leastExponent := by positivity
  have hxy := (units_strictMono f).lt_iff_lt (a := x.pattern) (b := y.pattern)
  have hyx := (units_strictMono f).lt_iff_lt (a := y.pattern) (b := x.pattern)
  rw [value_eq_units hx, value_eq_units hy, mul_lt_mul_iff_left₀ hunit,
    mul_left_inj' hunit.ne', orderKey, orderKey]
  have hx0 : (0 : ℚ) ≤ f.units x.pattern := Nat.cast_nonneg _
  have hy0 : (0 : ℚ) ≤ f.units y.pattern := Nat.cast_nonneg _
  cases x.negative <;> cases y.negative <;>
    simp only [if_true, if_false, Bool.false_eq_true, one_mul, neg_one_mul]
  case false.false => simp [← hxy]
  case true.true => simp [← hyx]
  case false.true =>
    refine iff_of_false (by omega) ?_
    rintro (hlt | ⟨-, ⟨⟩, -⟩)
    exact absurd (hlt.trans_le (neg_nonpos.mpr hy0)) (not_lt.mpr hx0)
  case true.false =>
    refine iff_of_true (by omega) ?_
    rw [not_false_eq_true, and_true, and_true]
    exact lt_or_eq_of_le ((neg_nonpos.mpr hx0).trans hy0)

theorem orderKey_lt_iff : x.orderKey < y.orderKey ↔ x.PrecedesTotally y := by
  unfold PrecedesTotally
  split
  · rename_i h
    exact orderKey_lt_iff_of_finite h.1 h.2
  · rename_i h
    unfold orderKey outside
    simp only [isNaN, isInfinite, isFinite, decide_eq_true_eq, beq_iff_eq] at h ⊢
    cases x.negative <;> cases y.negative <;> simp only [if_true, if_false, Bool.false_eq_true] <;>
      omega

end Binary

end PagedSearch
