/-
# Gazetteer.Decimal.Shortest -- the fewest digits that read back

The shortest decimal of a finite double other than zero is the one with the fewest digits among
those that round to it, and of several the nearest to it. The numbers that round to a double fill an
interval around it, which is asked exactly: in quarters of the unit, from `4 m - 2` to `4 m + 2`, or
from `4 m - 1` where the gap below is half as wide, with its ends if `m` is even. The search goes
from coarse decimal grids to finer ones and stops at the first that has a point in the interval,
which is one of the two neighbours of the double on that grid. A grid as fine as the double's own
unit holds the double itself, so the search has an end.
-/
import Gazetteer.Decimal.Binary64

namespace Gazetteer.Decimal

open scoped Powers

/-! ## The interval -/

/-- A decimal number: `digits * 10 ^ power`. -/
structure Scaled where
  digits : Nat
  power : Int
  deriving DecidableEq, Repr

/-- The lower end of the interval, in quarters of the unit. -/
def lowerQuarters (x : Binary64) : Nat :=
  4 * x.significand - (if x.fraction.val = 0 ∧ 1 < x.biased.val then 1 else 2)

/-- The upper end of the interval, in quarters of the unit. -/
def upperQuarters (x : Binary64) : Nat := 4 * x.significand + 2

/-- A decimal and some quarters of the unit of a double, brought to a common denominator. -/
def compared (x : Binary64) (d : Scaled) (quarters : Nat) : Nat × Nat :=
  let e := x.exponent - 2
  (d.digits * 10 ^ d.power.toNat * 2 ^ (-e).toNat, quarters * 2 ^ e.toNat * 10 ^ (-d.power).toNat)

/-- Whether a decimal rounds to a double. -/
def roundsTo (x : Binary64) (d : Scaled) : Bool :=
  let (d₁, lower) := compared x d (lowerQuarters x)
  let (d₂, upper) := compared x d (upperQuarters x)
  if x.significand % 2 = 0 then lower ≤ d₁ && d₂ ≤ upper else lower < d₁ && d₂ < upper

/-! ## Grids -/

/-- The double over the grid of multiples of `10 ^ power`, as a quotient. -/
def overGrid (x : Binary64) (power : Int) : Nat × Nat :=
  (x.numerator * 10 ^ (-power).toNat, x.denominator * 10 ^ power.toNat)

/-- The point of a grid that rounds to the double, if there is one: of its two neighbours there,
the nearer, and the upper one if both are as near. -/
def gridPoint? (x : Binary64) (power : Int) : Option Scaled :=
  let (num, den) := overGrid x power
  let below : Scaled := ⟨num / den, power⟩
  let above : Scaled := ⟨num / den + 1, power⟩
  match roundsTo x below, roundsTo x above with
  | true, true => if 2 * (num % den) < den then some below else some above
  | true, false => some below
  | false, true => some above
  | false, false => none

/-- A power of ten above the double, or close above it. -/
def startPower (x : Binary64) : Int :=
  ((x.significand.log2 + 1 + x.exponent) * 30103).fdiv 100000 + 1

/-- Searches `steps` grids, each ten times finer than the one before. -/
def searchGrids (x : Binary64) : Nat → Int → Scaled
  | 0, power => ⟨0, power⟩
  | steps + 1, power =>
    match gridPoint? x power with
    | some d => d
    | none => searchGrids x steps (power - 1)

/-- The shortest decimal that rounds to a finite double. -/
def shortest (x : Binary64) : Scaled :=
  let start := startPower x
  searchGrids x ((start - min x.exponent 0).toNat + 1) start

/-! ## Plain notation -/

/-- A decimal number written out, never with an exponent. -/
def Scaled.plain (d : Scaled) : Text :=
  let digits := Text.numeral d.digits
  let shift := (-d.power).toNat
  if 0 ≤ d.power then digits ++ List.replicate d.power.toNat '0'
  else if shift < digits.length then
    digits.take (digits.length - shift) ++ '.' :: digits.drop (digits.length - shift)
  else '0' :: '.' :: List.replicate (shift - digits.length) '0' ++ digits

end Gazetteer.Decimal
