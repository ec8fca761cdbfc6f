/-
# Gazetteer.Proofs.Country.Amount -- an amount shows the exact number, rounded once

The digits of an amount in a currency are those of one whole number: the nearest to the double's own
value, taken exactly and counted in units of the last fraction digit. Everything else about the
parts of the amount follows from the double, the symbol and the number of fraction digits.
-/
import Gazetteer.Country.Currency
import Gazetteer.Proofs.Decimal.Fixed
import Gazetteer.Proofs.Decimal.Value

namespace Gazetteer.Currency

/-- The number of units that the digits of an amount show. -/
theorem isNearestEven_fixedUnits (x : Binary64) (digits : Nat) :
    IsNearestEven (|x.value| * 10 ^ digits) (Decimal.fixedUnits x digits) := by
  have hquotient : |x.value| * 10 ^ digits
      = ((x.numerator * 10 ^ digits : Nat) : ℚ) / x.denominator := by
    rw [x.abs_value, x.magnitude_eq_div]
    push_cast
    ring
  rw [hquotient]
  exact isNearestEven_roundHalfEven _ x.denominator_pos

/-- **Fixed digits are exact.** A finite amount in a currency is a minus sign if it is below zero,
the symbol if there is one, a whole numeral, and, if any fraction digits are asked for, the point and
as many digits. All digits read as one number are the exact amount in units of the last, rounded to
the nearest whole number, halfway cases to the even one. -/
theorem partsWith_exact (c : Country) (format : Format) (x : Binary64) {code : Text}
    (hcurrency : c.currency = some code) (hcode : Text.isBlank code = false)
    (hx : x.isFinite = true) :
    let digits := min (format.fractionDigits.getD (minorUnits code)) 20
    ∃ whole fraction : Text,
      partsWith x c format
          = (if x.value < 0 then [⟨.minusSign, "-"⟩] else [])
            ++ (if c.symbol = [] then [] else [⟨.currency, c.symbol⟩])
            ++ [⟨.integer, whole⟩]
            ++ (if digits = 0 then [] else [⟨.decimal, "."⟩, ⟨.fraction, fraction⟩])
        ∧ Text.IsNumeral whole
        ∧ fraction.length = digits ∧ (∀ d ∈ fraction, d.isDigit = true)
        ∧ IsNearestEven (|x.value| * 10 ^ digits) (Decimal.digitsValue (whole ++ fraction))
        ∧ formatWith x c format = (partsWith x c format).flatMap Part.value := by
  intro digits
  let units := Decimal.fixedUnits x digits
  have hlength : (Decimal.fractionPart units digits).length = digits :=
    Decimal.length_fractionPart units digits
  refine ⟨Decimal.wholePart units digits, Decimal.fractionPart units digits, ?_,
    Text.isNumeral_numeral _, hlength, fun _ => Decimal.isDigit_of_mem_fractionPart, ?_, rfl⟩
  · have hnonBlank : Text.nonBlank? c.currency = some code := by
      rw [hcurrency, Text.nonBlank?, Option.filter_some_pos (by simp [hcode])]
    have hfraction : (Decimal.fractionPart units digits).isEmpty = true ↔ digits = 0 := by
      rw [List.isEmpty_iff_length_eq_zero, hlength]
    rw [partsWith, hnonBlank]
    show (if x.isFinite = true then finiteParts x c.symbol digits else _) = _
    rw [if_pos hx, finiteParts]
    simp only [x.isBelowZero_iff hx, hfraction, List.isEmpty_iff, units]
  · rw [Decimal.digitsValue_wholePart_append]
    exact isNearestEven_fixedUnits x digits

/-- An amount that rounds up to a longer numeral. -/
theorem partsWith_exact_carry :
    let code : Text := " kwd "
    let c : Country := { currency := some code, currencySymbol := some "KD" }
    let x : Binary64 := .ofBits 0xC08F3FFEF9DB22D1
    c.currency = some code ∧ Text.isBlank code = false ∧ x.isFinite = true
      ∧ formatWith x c {} = "-KD1000.000"
      ∧ x.value < 0 ∧ IsNearestEven (|x.value| * 10 ^ 3) 1000000 := by
  intro code c x
  have hcode : Text.isBlank code = false := by decide
  have hfinite : x.isFinite = true := by decide
  have hdigits : min ((none : Option Nat).getD (minorUnits code)) 20 = 3 := by decide
  have hshown : partsWith x c {}
      = [⟨.minusSign, "-"⟩, ⟨.currency, "KD"⟩, ⟨.integer, "1000"⟩, ⟨.decimal, "."⟩,
        ⟨.fraction, "000"⟩] := by decide +kernel
  obtain ⟨whole, fraction, hparts, -, -, -, hnearest, hformat⟩ :=
    partsWith_exact c {} x rfl hcode hfinite
  rw [hdigits] at hnearest
  rw [hdigits, hshown] at hparts
  refine ⟨rfl, hcode, hfinite, ?_, ?_⟩
  · rw [hformat, hshown]
    rfl
  · by_cases hbelow : x.value < 0
    · have hwhole : "1000".toList = whole ∧ "000".toList = fraction := by
        simpa [hbelow, c, Country.symbol] using hparts
      obtain ⟨rfl, rfl⟩ := hwhole
      exact ⟨hbelow, hnearest⟩
    · simp [hbelow, c, Country.symbol] at hparts

end Gazetteer.Currency
