/-
# Gazetteer.Text.Basic -- texts, and what every part of the library does with them

A text is the list of its characters. All functions of the library take and give texts; strings
appear only as literals and at the border to the outside world. The letter cases here are those of
ASCII alone: country codes, group codes and file extensions are compared and raised in ASCII, and
every other character stands as it is.
-/

namespace Gazetteer

namespace Powers

-- Where this is open, powers of whole numbers mean the same whatever else a module imports.
attribute [scoped instance (20000)] instPowNat

end Powers

/-- A text is the list of its characters. -/
abbrev Text := List Char

instance : Coe String Text := ⟨String.toList⟩

namespace Text

/-! ## Letter case and digits -/

/-- Raises the ASCII letters. -/
def upper (t : Text) : Text := t.map Char.toUpper

/-- Lowers the ASCII letters. -/
def lower (t : Text) : Text := t.map Char.toLower

/-- Two texts that differ at most in the case of ASCII letters. -/
def sameLetters (a b : Text) : Bool := lower a == lower b

/-- The ASCII digits of a text, in order. -/
def digits (t : Text) : Text := t.filter Char.isDigit

/-! ## Joining -/

/-- Puts the separator between neighbouring texts. -/
def joined (separator : Text) (parts : List Text) : Text := separator.intercalate parts

/-- Each text followed by a line end. -/
def lines (parts : List Text) : Text := parts.flatMap (· ++ ['\n'])

/-- The decimal numeral of a number. -/
def numeral (n : Nat) : Text := Nat.toDigits 10 n

/-! ## Tables of characters -/

/-- Whether a code point lies in one of some ranges, both ends included. -/
def inRanges (ranges : List (Nat × Nat)) (n : Nat) : Bool :=
  ranges.any (fun (lo, hi) => lo ≤ n && n ≤ hi)

end Text

end Gazetteer
