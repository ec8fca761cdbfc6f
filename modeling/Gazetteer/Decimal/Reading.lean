/-
# Gazetteer.Decimal.Reading -- reading a number as a double

A number is a sign or none, then digits with at most one point among or around them, then at most
one exponent; there is a digit before the exponent, and one in it. The words for infinity and for
not-a-number are read in any letter case. The double is the nearest one, and halfway cases go to
the even significand.
-/
import Gazetteer.Decimal.Binary64

namespace Gazetteer.Decimal

/-- The value of a run of digits. -/
def digitsValue (digits : Text) : Nat := digits.foldl (fun n c => 10 * n + (c.toNat - 48)) 0

/-- Takes the sign off: whether it was a minus. -/
def takeSign : Text → Bool × Text
  | '-' :: rest => (true, rest)
  | '+' :: rest => (false, rest)
  | rest => (false, rest)

/-- Reads what stands behind the digits: nothing, or an exponent. -/
def exponent? : Text → Option Int
  | [] => some 0
  | c :: rest =>
    let (negative, digits) := takeSign rest
    if (c == 'e' || c == 'E') && !digits.isEmpty && digits.all Char.isDigit then
      some (if negative then -digitsValue digits else digitsValue digits)
    else none

/-- Reads digits, point and exponent. -/
def unsigned? (negative : Bool) (t : Text) : Option Binary64 :=
  let whole := t.takeWhile Char.isDigit
  let rest := t.drop whole.length
  let (fraction, rest) := match rest with
    | '.' :: rest => (rest.takeWhile Char.isDigit, rest.dropWhile Char.isDigit)
    | rest => ([], rest)
  if whole.isEmpty && fraction.isEmpty then none
  else (exponent? rest).map fun e =>
    Binary64.ofDecimal negative (digitsValue (whole ++ fraction)) (e - fraction.length)

/-- Reads a number; `none` for a text that is none. -/
def read? (t : Text) : Option Binary64 :=
  let (negative, rest) := takeSign t
  if Text.sameLetters rest "inf" || Text.sameLetters rest "infinity" then
    some (.infinity negative)
  else if Text.sameLetters rest "nan" then some .nan
  else unsigned? negative rest

end Gazetteer.Decimal
