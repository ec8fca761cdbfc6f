/-
# Gazetteer.Address.Line -- template lines put together from parts

A template line can be written down part by part instead of as one text: plain text, values,
first-blocks and sections. `Line.written` is the text of such a line, with all its braces and tags.
-/
import Gazetteer.Address.Field
import Gazetteer.Address.Template

namespace Gazetteer.Address

/-- Plain text, or the value of a key between three or two braces. -/
inductive Atom where
  | text (t : Text)
  | value (triple : Bool) (key : Text)
  deriving DecidableEq, Repr

/-- What may stand in the body of a section. -/
inductive Piece where
  | atom (a : Atom)
  /-- The first of some alternatives that renders to something. -/
  | first (alternatives : List (List Atom))
  deriving DecidableEq, Repr

/-- A part of a line. -/
inductive Part where
  | piece (p : Piece)
  /-- Pieces that stand only with, or, inverted, only without a value of the key. -/
  | section (key : Text) (inverted : Bool) (body : List Piece)
  deriving DecidableEq, Repr

/-- A template line. -/
abbrev Line := List Part

/-! ## The text of a line -/

/-- The text of an atom. -/
def Atom.written : Atom → Text
  | .text t => t
  | .value true key => '{' :: Template.tag key ++ ['}']
  | .value false key => Template.tag key

/-- The text of a piece; two bars stand between alternatives. -/
def Piece.written : Piece → Text
  | .atom a => a.written
  | .first alternatives =>
    Template.firstOpen ++ Text.joined "||" (alternatives.map (·.flatMap Atom.written))
      ++ Template.firstClose

/-- The text of a part. -/
def Part.written : Part → Text
  | .piece p => p.written
  | .section key inverted body =>
    Template.tag ((if inverted then '^' else '#') :: key) ++ body.flatMap Piece.written
      ++ Template.tag ('/' :: key)

/-- The text of a line. -/
def Line.written (line : Line) : Text := line.flatMap Part.written

/-! ## The usual parts -/

/-- Plain text. -/
def Part.plain (t : Text) : Part := .piece (.atom (.text t))

/-- The value of a field, in three braces. -/
def Part.field (f : Field) : Part := .piece (.atom (.value true f.key))

/-- The first of some fields that has a value; a space stands on both sides of each. -/
def Part.firstField (fields : List Field) : Part :=
  .piece (.first (fields.map fun f => [.text " ", .value true f.key, .text " "]))

end Gazetteer.Address
