/-
# Gazetteer.Proofs.Country.PlainNumber -- amounts without a currency

The plain number of a finite amount other than zero is the shortest decimal that rounds to it, written
out. So it reads back as the amount, and no text with fewer significant digits does.
-/
import Gazetteer.Country.Currency
import Gazetteer.Proofs.Decimal.Plain

namespace Gazetteer.Currency

open Decimal (IsPlain pointed pointedValue digitsValue significantDigits significantDigitsOf)

variable {x : Binary64}

/-- Without a currency the amount is the plain number. -/
theorem format_of_no_currency {c : Country} (hc : Text.nonBlank? c.currency = none)
    (x : Binary64) : format x c = plainNumber x := by
  simp [format, formatWith, partsWith, hc]

theorem plainNumber_of_isZero (hzero : x.isZero = true) : plainNumber x = "0" := by
  have hnan : x.isNaN = false := by
    simp only [Binary64.isZero, Bool.and_eq_true, beq_iff_eq] at hzero
    simp [Binary64.isNaN, hzero.1]
  simp [plainNumber, hnan, hzero]

/-- The sign, and the shortest decimal written out. -/
theorem plainNumber_eq (hx : x.isFinite = true) (hzero : x.isZero = false) :
    plainNumber x = (if x.negative then ['-'] else []) ++ (Decimal.shortest x).plain := by
  have hnan : x.isNaN = false := by
    have hbiased : x.biased ≠ 2047 := by simpa [Binary64.isFinite] using hx
    simp [Binary64.isNaN, hbiased]
  simp [plainNumber, hnan, hzero, hx]

/-- What the digits of a plain number are: they write a number that the amount is nearest to, and
every decimal that rounds to the amount has as many significant digits. -/
theorem plainNumber_spec (hx : x.isFinite = true) (hzero : x.isZero = false) :
    ∃ whole fraction, IsPlain whole fraction
      ∧ plainNumber x = (if x.negative then ['-'] else []) ++ pointed whole fraction
      ∧ x.Covers (pointedValue whole fraction)
      ∧ ∀ (n : Nat) (p : ℤ), x.Covers (n * 10 ^ p) →
        significantDigits (digitsValue (whole ++ fraction)) ≤ significantDigits n := by
  have hpos := Binary64.significand_pos hzero
  have hcoarsest := Decimal.isCoarsest_shortest hx hpos
  obtain ⟨whole, fraction, hplain, htext, hvalue, hlength⟩ :=
    Decimal.Scaled.plain_eq hcoarsest.mod_ne_zero
  refine ⟨whole, fraction, hplain, ?_, ?_, fun n p hn => ?_⟩
  · rw [plainNumber_eq hx hzero, htext]
  · rw [Decimal.pointedValue_eq hvalue hlength]
    exact hcoarsest.covers
  · rw [hvalue, Decimal.significantDigits_mul_pow]
    exact hcoarsest.significantDigits_le hpos hn

/-- A plain number is read as the amount. -/
theorem read?_plainNumber (hx : x.isFinite = true) (hzero : x.isZero = false) :
    Decimal.read? (plainNumber x) = some x := by
  obtain ⟨whole, fraction, hplain, htext, hcovers, -⟩ := plainNumber_spec hx hzero
  rw [htext, Decimal.read?_pointed x.negative hplain]
  exact congrArg some ((Binary64.ofDecimal_eq_iff hx hzero).mpr ⟨rfl, hcovers⟩)

/-- No text that is read as the amount has fewer significant digits. -/
theorem significantDigitsOf_plainNumber_le (hx : x.isFinite = true) (hzero : x.isZero = false)
    {t : Text} (ht : Decimal.read? t = some x) :
    significantDigitsOf (plainNumber x) ≤ significantDigitsOf t := by
  obtain ⟨whole, fraction, hplain, htext, -, hfewest⟩ := plainNumber_spec hx hzero
  obtain ⟨negative, p, hdecimal⟩ := Decimal.eq_ofDecimal_of_read? hx ht
  have hcovers := ((Binary64.ofDecimal_eq_iff hx hzero).mp hdecimal.symm).2
  have hdigits : significantDigitsOf (plainNumber x)
      = significantDigits (digitsValue (whole ++ fraction)) := by
    rw [significantDigitsOf, htext, Decimal.mantissa_signed, Decimal.mantissa_pointed hplain]
  rw [hdigits]
  exact hfewest _ p hcovers

/-- The text of a finite amount is its own text again when it is read and shown. -/
theorem exists_read?_plainNumber (hx : x.isFinite = true) :
    ∃ y, Decimal.read? (plainNumber x) = some y ∧ plainNumber y = plainNumber x := by
  cases hzero : x.isZero with
  | false => exact ⟨x, read?_plainNumber hx hzero, rfl⟩
  | true =>
    refine ⟨.zero false, ?_, ?_⟩
    · rw [plainNumber_of_isZero hzero]
      rfl
    · rw [plainNumber_of_isZero hzero]
      rfl

end Gazetteer.Currency
