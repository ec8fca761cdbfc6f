/-
# Gazetteer.Text.Scan -- leftmost, non-overlapping occurrences

Tags in a line, marks between alternatives, commas in a list: all are found by one scan. A `Form`
says what stands at the front of a text and how many characters it takes. `pieces` walks the text
from left to right, takes a form wherever one starts, goes on right behind it, and hands on every
other character as it is. The walk is structural: the first argument counts the characters of the
form just taken that are still to be passed over.
-/
import Gazetteer.Text.Basic

namespace Gazetteer.Text

/-! ## Pieces -/

/-- Recognises a form at the front of a text: what it is and how many characters it takes. -/
abbrev Form (α : Type) := Text → Option (α × Nat)

/-- A piece of a scanned text: a plain character, or an occurrence of the form. -/
inductive Piece (α : Type) where
  | plain (c : Char)
  | found (what : α)
  deriving DecidableEq, Repr

variable {α : Type}

/-- The pieces of a text after its first `skip` characters. -/
def piecesFrom (form : Form α) : Nat → Text → List (Piece α)
  | _, [] => []
  | skip + 1, _ :: rest => piecesFrom form skip rest
  | 0, c :: rest =>
    match form (c :: rest) with
    | some (what, size) => .found what :: piecesFrom form (size - 1) rest
    | none => .plain c :: piecesFrom form 0 rest

/-- The leftmost, non-overlapping occurrences of a form, among the characters outside them. -/
def pieces (form : Form α) (t : Text) : List (Piece α) := piecesFrom form 0 t

/-- The occurrence that a piece is, if it is one. -/
def Piece.found? : Piece α → Option α
  | .plain _ => none
  | .found what => some what

/-- What the occurrences are, from left to right. -/
def occurrences (form : Form α) (t : Text) : List α := (pieces form t).filterMap Piece.found?

/-- Writes a piece: a plain character as it stands, an occurrence as the function says. -/
def Piece.write (f : α → Text) : Piece α → Text
  | .plain c => [c]
  | .found what => f what

/-- The text with every occurrence of the form replaced. -/
def replaceWith (form : Form α) (f : α → Text) (t : Text) : Text :=
  (pieces form t).flatMap (Piece.write f)

/-! ## Marks -/

/-- A fixed text as a form. -/
def mark (m : Text) : Form Unit := fun t => if m.isPrefixOf t then some ((), m.length) else none

/-- Splits at the leftmost occurrence of a mark: what stands before it and what stands after. -/
def cut? (m : Text) : Text → Option (Text × Text)
  | [] => if m.isEmpty then some ([], []) else none
  | c :: rest =>
    match m.isPrefixOf? (c :: rest) with
    | some after => some ([], after)
    | none => (cut? m rest).map fun (before, after) => (c :: before, after)

/-- The texts between the occurrences in a list of pieces. -/
def between : List (Piece α) → List Text
  | [] => [[]]
  | .found _ :: rest => [] :: between rest
  | .plain c :: rest =>
    match between rest with
    | [] => [[c]]
    | first :: others => (c :: first) :: others

/-- The parts of a text between the occurrences of a mark; without an occurrence, the text. -/
def splitOn (m t : Text) : List Text := between (pieces (mark m) t)

/-- Whether a text occurs inside another. -/
def occursIn (m t : Text) : Bool := (cut? m t).isSome

end Gazetteer.Text
