/-
# Gazetteer.Json.Number -- reading numbers

A number is an optional minus sign, digits without a superfluous zero in front, and maybe a fraction
and an exponent. One that is whole and fits into sixty-four bits is kept exactly. Any other becomes
a double in the quick way: the digits are gathered into a significand as long as they fit into
sixty-four bits, further ones only count, and the double of the significand is multiplied or divided
by the double of a power of ten, rounding each time. A number too large for a double is malformed.
-/
import Gazetteer.Json.Reader
import Gazetteer.Decimal.Shortest

namespace Gazetteer.Json

open scoped Powers

/-- A number as it is read. -/
inductive Number where
  | natural (n : Nat)
  /-- A whole number below zero. -/
  | negative (n : Int)
  | floating (x : Binary64)
  deriving DecidableEq, Repr

/-- How a number shows where something else is expected. -/
def Number.found : Number → Found
  | .natural n => .integer n
  | .negative n => .integer n
  | .floating x => .floating x

/-! ## Doubles by significand and power -/

/-- The greatest power of ten that is multiplied or divided by at once. -/
def greatestPower : Nat := 308

/-- A positive double times a power of ten, rounded. -/
def timesPower (x : Binary64) (p : Nat) : Binary64 :=
  let y := Binary64.nearest false (10 ^ p) 1
  .nearest false (x.numerator * y.numerator) (x.denominator * y.denominator)

/-- A positive double divided by a power of ten, rounded. -/
def overPower (x : Binary64) (p : Nat) : Binary64 :=
  let y := Binary64.nearest false (10 ^ p) 1
  .nearest false (x.numerator * y.denominator) (x.denominator * y.numerator)

/-- A positive double times `10 ^ e`; a very small power is taken in several steps, of which the
bound allows more than are needed to reach zero. -/
def scaled? : Nat → Binary64 → Int → Option Binary64
  | 0, x, _ => some x
  | bound + 1, x, e =>
    if e.natAbs ≤ greatestPower then
      if 0 ≤ e then
        let y := timesPower x e.toNat
        if y.isFinite then some y else none
      else some (overPower x e.natAbs)
    else if x.isZero then some x
    else if 0 ≤ e then none
    else scaled? bound (overPower x greatestPower) (e + greatestPower)

/-- The double with a sign, a significand and a power of ten. -/
def double (negative : Bool) (significand : Nat) (e : Int) : Reader Binary64 :=
  match scaled? 4 (.nearest false significand 1) e with
  | some x => pure { x with negative }
  | none => Reader.fail .malformed

/-! ## Digits -/

/-- Whether a byte is a digit. -/
def isDigitByte (b : UInt8) : Bool := (Reader.sign b).isDigit

/-- Takes the digits that follow. -/
def takeDigits : Reader (List Nat) := fun _ bytes =>
  .ok ((bytes.takeWhile isDigitByte).map (fun b => b.toNat - 48), bytes.dropWhile isDigitByte)

/-- Gathers digits into a significand as long as it fits into sixty-four bits, and counts those that
no longer do. -/
def gather (significand : Nat) : List Nat → Nat × Nat
  | [] => (significand, 0)
  | d :: rest =>
    if significand * 10 + d < 2 ^ (64 : Nat) then gather (significand * 10 + d) rest
    else (significand, (d :: rest).length)

/-- The greatest exponent that is gathered. -/
def greatestExponent : Nat := 2 ^ (31 : Nat) - 1

/-- Takes the sign of an exponent, if it has one: whether it is a minus. -/
def takeSign : Reader Bool := do
  let sign ← Reader.peek?
  if sign = some '+' || sign = some '-' then
    Reader.advance
    pure (sign = some '-')
  else pure false

/-- Takes the digits of an exponent, of which there must be one, as a number. -/
def takeExponent : Reader Nat := do
  let first ← Reader.next
  if first.isDigit then
    let digits ← takeDigits
    pure (digits.foldl (fun n d => 10 * n + d) (first.toNat - 48))
  else Reader.fail .malformed

/-- Takes the letter of an exponent, if there is one. -/
def takeExponentMark : Reader Bool := do
  let mark ← Reader.peek?
  if mark = some 'e' || mark = some 'E' then
    Reader.advance
    pure true
  else pure false

/-- Reads an exponent behind its letter. -/
def exponentOf (negative : Bool) (significand : Nat) (start : Int) : Reader Binary64 := do
  let down ← takeSign
  let e ← takeExponent
  if e ≤ greatestExponent then
    let _ ← Reader.peek?
    double negative significand (if down then start - e else start + e)
  else if significand ≠ 0 && !down then Reader.fail .malformed
  else
    let _ ← Reader.peek?
    pure (.zero negative)

/-- Reads what may stand behind the digits of a number that is no whole number: an exponent. -/
def scaledOf (negative : Bool) (significand : Nat) (start : Int) : Reader Binary64 := do
  if ← takeExponentMark then exponentOf negative significand start
  else double negative significand start

/-- Reads a fraction behind its point. -/
def fractionOf (negative : Bool) (significand : Nat) (start : Int) : Reader Binary64 := do
  let digits ← takeDigits
  if digits.isEmpty then Reader.peek *> Reader.fail .malformed
  else
    let (significand, left) := gather significand digits
    scaledOf negative significand (start - ((digits.length - left : Nat) : Int))

/-- A number that is whole and whose digits were all gathered. -/
def whole (negative : Bool) (n : Nat) : Number :=
  if !negative then .natural n
  else if n = 0 || 2 ^ (63 : Nat) < n then .floating { Binary64.nearest false n 1 with negative }
  else .negative (-n)

/-- Reads what may stand behind the first digits of a number: a fraction or an exponent. -/
def restOf (negative : Bool) (significand left : Nat) : Reader Number := do
  let mark ← Reader.peek?
  if mark = some '.' then
    Reader.advance
    .floating <$> fractionOf negative significand left
  else if mark = some 'e' || mark = some 'E' then
    Reader.advance
    .floating <$> exponentOf negative significand left
  else if left = 0 then pure (whole negative significand)
  else .floating <$> double negative significand left

/-- Reads a number behind its minus sign, if it has one. -/
def readNumber (negative : Bool) : Reader Number := do
  let first ← Reader.next
  if first.isDigit then
    let digits ← takeDigits
    if first = '0' && !digits.isEmpty then Reader.fail .malformed
    else
      let (significand, left) := gather (first.toNat - 48) digits
      restOf negative significand left
  else Reader.fail .malformed

/-! ## Passing over -/

/-- Passes over digits, of which there must be one. -/
def skipDigits : Reader Unit := do
  if (← takeDigits).isEmpty then Reader.peek? *> Reader.fail .malformed
  else pure ()

/-- Passes over an exponent, if there is one. -/
def skipExponent : Reader Unit := do
  if ← takeExponentMark then
    let _ ← takeSign
    skipDigits
    let _ ← Reader.peek?
    pure ()
  else pure ()

/-- Passes over a fraction, if there is one. -/
def skipFraction : Reader Unit := do
  if (← Reader.peek?) = some '.' then
    Reader.advance
    skipDigits
  else pure ()

/-- Passes over a number behind its minus sign, if it has one. -/
def skipNumber : Reader Unit := do
  let first ← Reader.peek?
  let digits ← takeDigits
  if digits.isEmpty || (first = some '0' && 1 < digits.length) then Reader.fail .malformed
  else
    skipFraction
    skipExponent

/-! ## The text of a double -/

/-- Digits with a point behind the first, if there is more than one. -/
def pointed : Text → Text
  | [] => []
  | [c] => [c]
  | c :: rest => c :: '.' :: rest

/-- A double as it shows where something else is expected: the fewest digits that read back, with a
point or an exponent. Numbers from 0.00001 up to 10 to the 16th are written without an exponent. -/
def doubleText (x : Binary64) : Text :=
  let sign : Text := if x.negative then ['-'] else []
  if x.isZero then sign ++ "0.0"
  else
    let d := Decimal.shortest x
    let digits := Text.numeral d.digits
    let top : Int := digits.length + d.power
    if 0 ≤ d.power && top ≤ 16 then sign ++ d.plain ++ ".0"
    else if -5 < top && top ≤ 16 then sign ++ d.plain
    else
      let e := top - 1
      sign ++ pointed digits ++ 'e' :: (if e < 0 then ['-'] else []) ++ Text.numeral e.natAbs

end Gazetteer.Json
