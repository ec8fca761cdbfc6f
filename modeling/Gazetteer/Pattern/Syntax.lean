/-
# Gazetteer.Pattern.Syntax -- what a pattern is made of

A `Node` is a pattern as it is written. Flags are part of the writing: a group may start with a
change of flags that holds inside it, and a change of flags may stand alone, to hold up to the end
of the group around it.
-/
import Gazetteer.Pattern.CharSet

namespace Gazetteer.Pattern

/-- A condition on a place between two characters. -/
inductive Anchor where
  | textStart
  | textEnd
  /-- The start of the text, or right after a line feed. -/
  | lineStart
  /-- The end of the text, or right before a line feed. -/
  | lineEnd
  | wordBoundary
  | notWordBoundary
  | wordStart
  | wordEnd
  /-- No word character stands before. -/
  | wordStartHalf
  /-- No word character stands after. -/
  | wordEndHalf
  deriving DecidableEq, Repr

/-- A change of flags; `none` leaves a flag as it is. -/
structure FlagChange where
  foldCase : Option Bool := none
  multiLine : Option Bool := none
  dotAll : Option Bool := none
  deriving DecidableEq, Repr

/-- A pattern as it is written. -/
inductive Node where
  | empty
  | literal (c : Char)
  /-- The dot. -/
  | anyChar
  | set (s : CharSet)
  | caret
  | dollar
  | anchor (a : Anchor)
  | setFlags (change : FlagChange)
  | group (name : Option Text) (change : FlagChange) (body : Node)
  /-- At least `least` times, and at most `most` times if there is a bound. -/
  | repetition (least : Nat) (most : Option Nat) (body : Node)
  | sequence (first rest : Node)
  | alternation (first rest : Node)
  deriving DecidableEq, Repr

namespace Node

/-- The names of the groups, in the order of their opening brackets. -/
def names : Node → List Text
  | .group name _ body => name.toList ++ body.names
  | .repetition _ _ body => body.names
  | .sequence a b | .alternation a b => a.names ++ b.names
  | _ => []

/-- Whether a node is a sequence, so that a longer one continues it. -/
def isSequence : Node → Bool
  | .sequence _ _ => true
  | _ => false

/-- Whether a node is an alternation, so that a longer one continues it. -/
def isAlternation : Node → Bool
  | .alternation _ _ => true
  | _ => false

/-- How deep a pattern is nested; a sequence or alternation counts once for all its parts. -/
def depth : Node → Nat
  | .set s => s.depth
  | .group _ _ body | .repetition _ _ body => 1 + body.depth
  | .sequence a b => 1 + max a.depth (b.depth - b.isSequence.toNat)
  | .alternation a b => 1 + max a.depth (b.depth - b.isAlternation.toNat)
  | _ => 0

/-- How many characters and sets are left at least when the repetitions of a pattern are written
out. Alternatives may share what they have in common, so only the longest of them counts. -/
def size : Node → Nat
  | .literal _ | .anyChar | .set _ => 1
  | .group _ _ body => body.size
  | .repetition least most body => most.getD (max 1 least) * body.size
  | .sequence a b => a.size + b.size
  | .alternation a b => max a.size b.size
  | _ => 0

/-- Puts a node in front of what follows it. -/
def before (item rest : Node) : Node := if rest = .empty then item else .sequence item rest

/-- Whether a repetition may be applied to a node: a lone change of flags cannot be repeated. -/
def isRepeatable : Node → Bool
  | .empty | .setFlags _ => false
  | _ => true

end Node

end Gazetteer.Pattern
