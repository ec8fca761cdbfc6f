/-
# Gazetteer.Proofs.Decimal.Fixed -- the digits on both sides of the point

A number of units is written as the digits before the point and as many digits behind it as are
asked for. Read as one number again, these digits are the units; so a carry that makes the digits
before the point longer is in the number already, before it is cut in two.
-/
import Gazetteer.Decimal.Fixed
import Gazetteer.Decimal.Reading
import Gazetteer.Proofs.Text.Numeral

namespace Gazetteer.Decimal

open Text (numeral)
open scoped Powers

/-! ## The value of digits -/

theorem digitsValue_eq (t : Text) : digitsValue t = Nat.ofDigitChars 10 t 0 := by
  rw [Nat.ofDigitChars_eq_foldl]
  rfl

theorem digitsValue_append (s t : Text) :
    digitsValue (s ++ t) = 10 ^ t.length * digitsValue s + digitsValue t := by
  rw [digitsValue_eq, digitsValue_eq, digitsValue_eq, Nat.ofDigitChars_append,
    Nat.ofDigitChars_eq_ofDigitChars_zero]

theorem digitsValue_numeral (n : Nat) : digitsValue (numeral n) = n := by
  rw [digitsValue_eq]
  exact Nat.ofDigitChars_toDigits (by decide) (by decide)

/-! ## Zeros on the left -/

theorem digitsValue_padded (width n : Nat) : digitsValue (padded width n) = n := by
  have hzeros : digitsValue (List.replicate (width - (numeral n).length) '0') = 0 := by
    rw [digitsValue_eq, Nat.ofDigitChars_replicate_zero, Nat.mul_zero]
  simp only [padded]
  rw [digitsValue_append, hzeros, digitsValue_numeral, Nat.mul_zero, Nat.zero_add]

theorem length_padded {width n : Nat} (hwidth : 0 < width) (hn : n < 10 ^ width) :
    (padded width n).length = width := by
  have hle : (numeral n).length ≤ width := (Nat.length_toDigits_le_iff (by decide) hwidth).mpr hn
  simp only [padded, List.length_append, List.length_replicate]
  omega

theorem isDigit_of_mem_padded {width n : Nat} {c : Char} (h : c ∈ padded width n) :
    c.isDigit = true := by
  rcases List.mem_append.mp h with hzero | hdigit
  · rw [List.eq_of_mem_replicate hzero]
    rfl
  · exact Text.isDigit_of_mem_numeral hdigit

/-! ## Both sides of the point -/

theorem length_fractionPart (units digits : Nat) : (fractionPart units digits).length = digits := by
  unfold fractionPart
  split
  · rename_i hzero
    exact hzero.symm
  · rename_i hne
    exact length_padded (by omega) (Nat.mod_lt _ (Nat.pow_pos (by decide)))

theorem isDigit_of_mem_fractionPart {units digits : Nat} {c : Char}
    (h : c ∈ fractionPart units digits) : c.isDigit = true := by
  unfold fractionPart at h
  split at h
  · exact absurd h (by simp)
  · exact isDigit_of_mem_padded h

/-- The digits before the point and behind it, read as one number, are the units. -/
theorem digitsValue_wholePart_append (units digits : Nat) :
    digitsValue (wholePart units digits ++ fractionPart units digits) = units := by
  have hfraction : digitsValue (fractionPart units digits) = units % 10 ^ digits := by
    unfold fractionPart
    split
    · rename_i hzero
      rw [hzero, Nat.pow_zero, Nat.mod_one]
      rfl
    · exact digitsValue_padded digits _
  rw [digitsValue_append, length_fractionPart, hfraction, wholePart, digitsValue_numeral]
  exact Nat.div_add_mod units (10 ^ digits)

end Gazetteer.Decimal
