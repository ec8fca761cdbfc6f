/-
# Gazetteer.Pattern.CharSet -- sets of characters as a class of a pattern writes them

A class lists characters, ranges, white space and further classes, may combine such lists by
intersection, difference and symmetric difference, and may be negated. When letter case does not
matter, each bracketed class and each operand is first closed under case variants; negation comes
after that, so a negated class holds no variant of what it excludes.
-/
import Gazetteer.Text.Blank
import Gazetteer.Text.CaseFold

namespace Gazetteer.Pattern

/-- A set of characters. -/
inductive CharSet where
  /-- The empty list of a class that has not begun. -/
  | nothing
  /-- The characters from the first to the second, both included. -/
  | range (lo hi : Char)
  /-- The white space, or, if negated, everything else. -/
  | blank (negated : Bool)
  | union (a b : CharSet)
  | intersection (a b : CharSet)
  | difference (a b : CharSet)
  | symmetricDifference (a b : CharSet)
  /-- A bracketed class. -/
  | bracket (negated : Bool) (a : CharSet)
  /-- A class that is written by name, as the ranges it stands for. -/
  | named (negated : Bool) (ranges : List (Char × Char))
  deriving DecidableEq, Repr

namespace CharSet

/-- A single character. -/
def single (c : Char) : CharSet := .range c c

/-- The characters that count as the given one. -/
def variants (foldCase : Bool) (c : Char) : List Char :=
  if foldCase then Text.caseVariants c else [c]

/-- Whether a set holds a character. -/
def holds (foldCase : Bool) : CharSet → Char → Bool
  | .nothing, _ => false
  | .range lo hi, c => lo ≤ c && c ≤ hi
  | .blank negated, c => Text.isBlankChar c != negated
  | .union a b, c => a.holds foldCase c || b.holds foldCase c
  | .intersection a b, c =>
    (variants foldCase c).any (a.holds foldCase) && (variants foldCase c).any (b.holds foldCase)
  | .difference a b, c =>
    (variants foldCase c).any (a.holds foldCase) && !(variants foldCase c).any (b.holds foldCase)
  | .symmetricDifference a b, c =>
    (variants foldCase c).any (a.holds foldCase) != (variants foldCase c).any (b.holds foldCase)
  | .bracket negated a, c => (variants foldCase c).any (a.holds foldCase) != negated
  | .named negated ranges, c =>
    (variants foldCase c).any (fun v => ranges.any (fun (lo, hi) => lo ≤ v && v ≤ hi)) != negated

/-! ## Nesting -/

/-- The number of items that are listed side by side. -/
def items : CharSet → Nat
  | .nothing => 0
  | .union a b => a.items + b.items
  | _ => 1

/-- Whether several items are listed side by side. -/
def isList (s : CharSet) : Bool := 1 < s.items

/-- How deep a set is nested; a list of several items counts once for all of them. -/
def depth : CharSet → Nat
  | .nothing | .range _ _ | .blank _ | .named _ _ => 0
  | .union a b =>
    (CharSet.union a b).isList.toNat
      + max (a.depth - a.isList.toNat) (b.depth - b.isList.toNat)
  | .intersection a b | .difference a b | .symmetricDifference a b => 1 + max a.depth b.depth
  | .bracket _ a => 1 + a.depth

/-! ## Classes with a name -/

/-- The ranges of the ASCII classes that are written by name between `[:` and `:]`. -/
def rangesNamed? (name : Text) : Option (List (Char × Char)) :=
  ([ ("alnum", [('0', '9'), ('A', 'Z'), ('a', 'z')]),
     ("alpha", [('A', 'Z'), ('a', 'z')]),
     ("ascii", [('\x00', '\x7F')]),
     ("blank", [('\t', '\t'), (' ', ' ')]),
     ("cntrl", [('\x00', '\x1F'), ('\x7F', '\x7F')]),
     ("digit", [('0', '9')]),
     ("graph", [('!', '~')]),
     ("lower", [('a', 'z')]),
     ("print", [(' ', '~')]),
     ("punct", [('!', '/'), (':', '@'), ('[', '\x60'), ('\x7B', '~')]),
     ("space", [('\t', '\r'), (' ', ' ')]),
     ("upper", [('A', 'Z')]),
     ("word", [('0', '9'), ('A', 'Z'), ('_', '_'), ('a', 'z')]),
     ("xdigit", [('0', '9'), ('A', 'F'), ('a', 'f')]) ].find?
    (fun (n, _) => n.toList == name)).map (·.2)

end CharSet

end Gazetteer.Pattern
