/-
# Gazetteer.Proofs.Decimal.Value -- the number that a double is

A finite double stands for a rational number, which its fields lay down: one and a fraction times a
power of two, or, below the normal range, the fraction alone times the least power. The library
decides everything on whole numbers instead, a numerator over a denominator, and the two are the
same number. Rounding a quotient gives the whole number nearest to it; of two that are as near, the
even one.
-/
import Mathlib.Algebra.Order.Field.Power
import Mathlib.Data.Rat.Cast.Order
import Mathlib.Tactic.FieldSimp
import Mathlib.Tactic.Linarith
import Mathlib.Tactic.Positivity
import Mathlib.Tactic.Ring
import Gazetteer.Decimal.Binary64

namespace Gazetteer

/-! ## The nearest whole number -/

/-- No whole number is nearer to the rational; if another one is as near, this one is even. -/
structure IsNearestEven (q : ℚ) (n : Nat) : Prop where
  nearest : ∀ m : ℤ, |q - n| ≤ |q - m|
  even_of_tie : ∀ m : ℤ, m ≠ n → |q - m| = |q - n| → Even n

/-- A whole number not more than a half away is nearest, and only at a half is another as near. -/
theorem isNearestEven_of_half {q : ℚ} {n : Nat} (hhalf : |q - n| ≤ 1 / 2)
    (htie : |q - n| = 1 / 2 → Even n) : IsNearestEven q n := by
  -- Two different whole numbers are at least one apart.
  have hapart : ∀ m : ℤ, m ≠ n → 1 ≤ |q - m| + |q - n| := by
    intro m hm
    have hone : (1 : ℤ) ≤ |m - n| := Int.one_le_abs (sub_ne_zero.mpr hm)
    have hcast : (1 : ℚ) ≤ |(m : ℚ) - n| := by exact_mod_cast hone
    have htriangle : |(m : ℚ) - n| ≤ |(m : ℚ) - q| + |q - n| := abs_sub_le _ _ _
    rw [abs_sub_comm (m : ℚ) q] at htriangle
    linarith
  constructor
  · intro m
    by_cases hm : m = n
    · rw [hm, Int.cast_natCast]
    · have hsum := hapart m hm
      linarith
  · intro m hm heq
    apply htie
    have hsum := hapart m hm
    linarith

/-- Rounding a quotient gives the whole number nearest to it. -/
theorem isNearestEven_roundHalfEven (num : Nat) {den : Nat} (hden : 0 < den) :
    IsNearestEven (num / den) (roundHalfEven num den) := by
  have hpos : (0 : ℚ) < den := by exact_mod_cast hden
  have hlt : num % den < den := Nat.mod_lt num hden
  have hsplit : (num : ℚ) / den = (num / den : Nat) + ((num % den : Nat) : ℚ) / den := by
    have hnum : (num : ℚ) = den * (num / den : Nat) + (num % den : Nat) := by
      exact_mod_cast (Nat.div_add_mod num den).symm
    rw [div_eq_iff hpos.ne', add_mul, div_mul_cancel₀ _ hpos.ne', mul_comm _ (den : ℚ)]
    exact hnum
  -- The two neighbours are as far away as the remainder is from zero and from the denominator.
  have hdown : |(num : ℚ) / den - (num / den : Nat)| = ((num % den : Nat) : ℚ) / den := by
    rw [hsplit, add_sub_cancel_left, abs_of_nonneg (by positivity)]
  have hup : |(num : ℚ) / den - (num / den + 1 : Nat)| = ((den - num % den : Nat) : ℚ) / den := by
    have hbelow : ((num % den : Nat) : ℚ) / den ≤ 1 := by
      rw [div_le_one hpos]
      exact_mod_cast hlt.le
    rw [hsplit, Nat.cast_add, Nat.cast_one, add_sub_add_left_eq_sub, abs_sub_comm,
      abs_of_nonneg (by linarith), Nat.cast_sub hlt.le, sub_div, div_self hpos.ne']
  have hle : ∀ a : Nat, 2 * a ≤ den → (a : ℚ) / den ≤ 1 / 2 := by
    intro a ha
    rw [div_le_div_iff₀ hpos two_pos]
    exact_mod_cast (by omega : a * 2 ≤ 1 * den)
  have heq : ∀ a : Nat, (a : ℚ) / den = 1 / 2 → 2 * a = den := by
    intro a ha
    rw [div_eq_div_iff hpos.ne' two_ne_zero] at ha
    have hnat : a * 2 = 1 * den := by exact_mod_cast ha
    omega
  simp only [roundHalfEven]
  split_ifs with hless hmore heven
  · refine isNearestEven_of_half (hdown ▸ hle _ (by omega)) fun htie => ?_
    have hdouble := heq _ (hdown ▸ htie)
    omega
  · refine isNearestEven_of_half (hup ▸ hle _ (by omega)) fun htie => ?_
    have hdouble := heq _ (hup ▸ htie)
    omega
  · exact isNearestEven_of_half (hdown ▸ hle _ (by omega)) fun _ => Nat.even_iff.mpr heven
  · refine isNearestEven_of_half (hup ▸ hle _ (by omega)) fun _ => Nat.even_iff.mpr (by omega)

/-! ## The value of a double -/

/-- A power is one of the exponent above zero over one of the exponent below. -/
theorem zpow_eq_div {b : ℚ} (hb : b ≠ 0) (e : ℤ) : b ^ e = b ^ e.toNat / b ^ (-e).toNat := by
  conv_lhs => rw [← Int.toNat_sub_toNat_neg e, zpow_sub₀ hb, zpow_natCast, zpow_natCast]

namespace Binary64

/-- How far a finite double is from zero. -/
def magnitude (x : Binary64) : ℚ :=
  if x.biased.val = 0 then x.fraction.val / 2 ^ 52 * 2 ^ (-1022 : ℤ)
  else (1 + x.fraction.val / 2 ^ 52) * 2 ^ ((x.biased.val : ℤ) - 1023)

/-- The number that a finite double is. -/
def value (x : Binary64) : ℚ := if x.negative then -x.magnitude else x.magnitude

theorem magnitude_eq_significand (x : Binary64) :
    x.magnitude = x.significand * 2 ^ x.exponent := by
  have hscale : ∀ e : ℤ, (2 : ℚ) ^ e = 2 ^ 52 * 2 ^ (e - 52) := by
    intro e
    rw [← zpow_natCast, ← zpow_add₀ two_ne_zero]
    norm_num
  have hbiased : x.biased = 0 ↔ x.biased.val = 0 := Fin.ext_iff
  unfold magnitude significand exponent
  simp only [hbiased]
  split_ifs with hzero
  · have hexp : ((max 0 1 : Nat) : ℤ) - 1075 = -1022 - 52 := rfl
    rw [hzero, hexp, hscale, ← mul_assoc, div_mul_cancel₀ _ (by positivity)]
  · have hpos : 1 ≤ x.biased.val := by omega
    rw [max_eq_left hpos, hscale]
    push_cast
    have hexp : (x.biased.val : ℤ) - 1023 - 52 = (x.biased.val : ℤ) - 1075 := by ring
    rw [hexp]
    ring

/-- The numerator over the denominator is the distance from zero. -/
theorem magnitude_eq_div (x : Binary64) : x.magnitude = x.numerator / x.denominator := by
  rw [magnitude_eq_significand, zpow_eq_div two_ne_zero, numerator, denominator]
  push_cast
  ring

theorem denominator_pos (x : Binary64) : 0 < x.denominator := Nat.two_pow_pos _

theorem magnitude_nonneg (x : Binary64) : 0 ≤ x.magnitude := by
  rw [magnitude_eq_div]
  positivity

theorem abs_value (x : Binary64) : |x.value| = x.magnitude := by
  unfold value
  split_ifs
  · rw [abs_neg, abs_of_nonneg x.magnitude_nonneg]
  · exact abs_of_nonneg x.magnitude_nonneg

theorem magnitude_eq_zero_iff (x : Binary64) : x.magnitude = 0 ↔ x.isZero = true := by
  have hpower : (2 : ℚ) ^ x.exponent ≠ 0 := zpow_ne_zero _ two_ne_zero
  rw [magnitude_eq_significand, mul_eq_zero, or_iff_left hpower, Nat.cast_eq_zero, significand,
    isZero, Bool.and_eq_true, beq_iff_eq, beq_iff_eq]
  split_ifs with hzero
  · rw [Fin.ext_iff (a := x.fraction)]
    simp [hzero]
  · simp [hzero]

/-- A finite double is below zero when its number is; so the negative zero is not. -/
theorem isBelowZero_iff {x : Binary64} (hx : x.isFinite = true) :
    x.isBelowZero = true ↔ x.value < 0 := by
  have hnan : x.isNaN = false := by
    have hbiased : x.biased ≠ 2047 := by simpa [isFinite] using hx
    simp [isNaN, hbiased]
  have hzero := x.magnitude_eq_zero_iff
  have hnonneg := x.magnitude_nonneg
  unfold isBelowZero value
  cases hsign : x.negative with
  | false => simpa using hnonneg
  | true =>
    cases hiszero : x.isZero with
    | true => simp [hzero.mpr hiszero]
    | false =>
      have hne : x.magnitude ≠ 0 := fun h => by simp [hzero.mp h] at hiszero
      have hpos : 0 < x.magnitude := lt_of_le_of_ne hnonneg hne.symm
      simp [hnan, hpos]

end Binary64

end Gazetteer
