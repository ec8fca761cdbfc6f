/-
# Gazetteer.Decimal.Fixed -- a fixed number of fraction digits

The text of a finite double with `digits` fraction digits is that of the whole number nearest to
`10 ^ digits` times its distance from zero, with the point put in. The double is taken at its exact
value, and halfway cases go to the even number.
-/
import Gazetteer.Decimal.Binary64

namespace Gazetteer.Decimal

open scoped Powers

/-- The distance from zero in units of the last fraction digit, rounded. -/
def fixedUnits (x : Binary64) (digits : Nat) : Nat :=
  roundHalfEven (x.numerator * 10 ^ digits) x.denominator

/-- A numeral filled up with zeros on the left. -/
def padded (width n : Nat) : Text :=
  let numeral := Text.numeral n
  List.replicate (width - numeral.length) '0' ++ numeral

/-- The digits before the point. -/
def wholePart (units digits : Nat) : Text := Text.numeral (units / 10 ^ digits)

/-- The digits behind the point, as many as are asked for. -/
def fractionPart (units digits : Nat) : Text :=
  if digits = 0 then [] else padded digits (units % 10 ^ digits)

end Gazetteer.Decimal
