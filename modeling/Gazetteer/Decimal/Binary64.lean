/-
# Gazetteer.Decimal.Binary64 -- double-precision numbers, exactly

A double is its three fields: sign, exponent and fraction. A finite one is exactly
`± significand * 2 ^ exponent`, and everything the library prints or reads is decided on these whole
numbers; no floating-point arithmetic takes place. `nearest` is the one rounding into the format:
to the nearest double, halfway cases to the one with even significand.
-/
import Gazetteer.Text.Basic

namespace Gazetteer

open scoped Powers

/-- A double-precision number as its fields. -/
structure Binary64 where
  negative : Bool
  biased : Fin 2048
  fraction : Fin (2 ^ (52 : Nat))
  deriving DecidableEq, Repr

/-! ## Rounding a quotient -/

/-- The whole number nearest to a quotient; halfway cases go to the even one. -/
def roundHalfEven (num den : Nat) : Nat :=
  let q := num / den
  let r := num % den
  if 2 * r < den then q
  else if den < 2 * r then q + 1
  else if q % 2 = 0 then q else q + 1

namespace Binary64

/-! ## Fields and values -/

/-- The double whose sixty-four bits are given, the sign first. -/
def ofBits (bits : UInt64) : Binary64 :=
  let n := bits.toNat
  ⟨2 ^ (63 : Nat) ≤ n, Fin.ofNat 2048 (n / 2 ^ (52 : Nat)), Fin.ofNat (2 ^ (52 : Nat)) n⟩

/-- No infinity and no NaN. -/
def isFinite (x : Binary64) : Bool := x.biased != 2047

/-- Not a number. -/
def isNaN (x : Binary64) : Bool := x.biased == 2047 && x.fraction != 0

/-- Either of the two zeros. -/
def isZero (x : Binary64) : Bool := x.biased == 0 && x.fraction == 0

/-- Less than zero; the negative zero is not. -/
def isBelowZero (x : Binary64) : Bool := x.negative && !x.isNaN && !x.isZero

/-- The whole number of units that a finite double is away from zero. -/
def significand (x : Binary64) : Nat :=
  if x.biased = 0 then x.fraction.val else 2 ^ (52 : Nat) + x.fraction.val

/-- The unit of a finite double is this power of two. -/
def exponent (x : Binary64) : Int := (max x.biased.val 1 : Nat) - 1075

/-- The distance of a finite double from zero is `numerator / denominator`. -/
def numerator (x : Binary64) : Nat := x.significand * 2 ^ x.exponent.toNat

/-- The power of two under the numerator. -/
def denominator (x : Binary64) : Nat := 2 ^ (-x.exponent).toNat

/-! ## The nearest double -/

/-- The double with a sign and the remaining bits as one number. Bits of a number too large for
the format give the infinity. -/
def ofMagnitude (negative : Bool) (bits : Nat) : Binary64 :=
  if bits < 2047 * 2 ^ (52 : Nat) then
    ⟨negative, Fin.ofNat 2048 (bits / 2 ^ (52 : Nat)), Fin.ofNat (2 ^ (52 : Nat)) bits⟩
  else ⟨negative, 2047, 0⟩

/-- The zero of a sign. -/
def zero (negative : Bool) : Binary64 := ⟨negative, 0, 0⟩

/-- The infinity of a sign. -/
def infinity (negative : Bool) : Binary64 := ⟨negative, 2047, 0⟩

/-- Not a number. -/
def nan : Binary64 := ⟨false, 2047, Fin.ofNat (2 ^ (52 : Nat)) (2 ^ (51 : Nat))⟩

/-- The exponent of the unit that a positive quotient is rounded in: the significand then has 53
bits, or fewer for a quotient below the normal range. -/
def unitExponent (num den : Nat) : Int :=
  let e : Int := num.log2 - den.log2 - 53
  let fits := num * 2 ^ (-e).toNat < 2 ^ (53 : Nat) * (den * 2 ^ e.toNat)
  max (-1074) (if fits then e else e + 1)

/-- The double nearest to `± num / den`. -/
def nearest (negative : Bool) (num den : Nat) : Binary64 :=
  if num = 0 then zero negative
  else
    let e := unitExponent num den
    let m := roundHalfEven (num * 2 ^ (-e).toNat) (den * 2 ^ e.toNat)
    ofMagnitude negative ((e + 1074).toNat * 2 ^ (52 : Nat) + m)

/-- The double nearest to `± n * 10 ^ p`. A number far out of range is told by the count of its
digits. -/
def ofDecimal (negative : Bool) (n : Nat) (p : Int) : Binary64 :=
  let size : Int := p + (Nat.toDigits 10 n).length
  if n = 0 || size < -400 then zero negative
  else if 400 < size then infinity negative
  else nearest negative (n * 10 ^ p.toNat) (10 ^ (-p).toNat)

end Binary64

end Gazetteer
