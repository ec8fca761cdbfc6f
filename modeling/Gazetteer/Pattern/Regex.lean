/-
# Gazetteer.Pattern.Regex -- what a pattern means, and when a text holds a match

A pattern is turned into a `Regex`, in which flags, groups and classes are gone: a character is a
test, the caret and dollar are conditions on a place. A text of `n` characters has `n + 1` places,
and a set of places is a list of `n + 1` marks. `Regex.run` takes the places where a match may
start to the places where it may end. So a text holds a match when a run from all places marks any.

A repetition without a bound is the least set that holds the marks it starts from and all that one
more round reaches; as every round but the last adds a mark, as many rounds as there are places
reach it.
-/
import Gazetteer.Pattern.Syntax
import Gazetteer.Text.WordChars

namespace Gazetteer.Pattern

/-! ## Meanings -/

/-- A pattern without its writing. -/
inductive Regex where
  | empty
  | one (test : Char → Bool)
  | anchor (a : Anchor)
  | sequence (first rest : Regex)
  | alternation (first rest : Regex)
  | repetition (least : Nat) (most : Option Nat) (body : Regex)

/-- The flags in force. -/
structure Flags where
  foldCase : Bool := false
  multiLine : Bool := false
  dotAll : Bool := false
  deriving DecidableEq, Repr

/-- The flags after a change. -/
def Flags.apply (f : Flags) (change : FlagChange) : Flags :=
  ⟨change.foldCase.getD f.foldCase, change.multiLine.getD f.multiLine,
    change.dotAll.getD f.dotAll⟩

/-- The test for a character that stands for itself. -/
def literalTest (foldCase : Bool) (c : Char) : Char → Bool :=
  if foldCase then
    let target := Text.foldCase c
    fun d => Text.foldCase d == target
  else fun d => d == c

/-- The meaning of a pattern under some flags, and the flags behind it. -/
def Node.meaning : Node → Flags → Regex × Flags
  | .empty, f => (.empty, f)
  | .literal c, f => (.one (literalTest f.foldCase c), f)
  | .anyChar, f => (.one (fun c => f.dotAll || c != '\n'), f)
  | .set s, f => (.one (s.holds f.foldCase), f)
  | .caret, f => (.anchor (if f.multiLine then .lineStart else .textStart), f)
  | .dollar, f => (.anchor (if f.multiLine then .lineEnd else .textEnd), f)
  | .anchor a, f => (.anchor a, f)
  | .setFlags change, f => (.empty, f.apply change)
  | .group _ change body, f => ((body.meaning (f.apply change)).1, f)
  | .repetition least most body, f => (.repetition least most (body.meaning f).1, f)
  | .sequence a b, f =>
    let (first, f) := a.meaning f
    let (rest, f) := b.meaning f
    (.sequence first rest, f)
  | .alternation a b, f =>
    let (first, f) := a.meaning f
    let (rest, f) := b.meaning f
    (.alternation first rest, f)

/-! ## Places -/

/-- The characters right before and right after every place of a text. -/
def neighbours (t : Text) : List (Option Char × Option Char) :=
  (none :: t.map some).zip (t.map some ++ [none])

/-- Whether a neighbour is a word character. -/
def isWord (c : Option Char) : Bool := c.any Text.isWordChar

/-- Whether a condition holds at the place between two neighbours. -/
def Anchor.holds (a : Anchor) (before after : Option Char) : Bool :=
  match a with
  | .textStart => before.isNone
  | .textEnd => after.isNone
  | .lineStart => before.isNone || before == some '\n'
  | .lineEnd => after.isNone || after == some '\n'
  | .wordBoundary => isWord before != isWord after
  | .notWordBoundary => isWord before == isWord after
  | .wordStart => !isWord before && isWord after
  | .wordEnd => isWord before && !isWord after
  | .wordStartHalf => !isWord before
  | .wordEndHalf => !isWord after

/-! ## Marks -/

/-- A set of places of a text, one mark for each. -/
abbrev Marks := List Bool

/-- The places of either set. -/
def Marks.union (a b : Marks) : Marks := List.zipWith (· || ·) a b

/-- The places behind a marked place and one character that passes the test. -/
def Marks.advance (test : Char → Bool) (t : Text) (m : Marks) : Marks :=
  false :: List.zipWith (fun marked c => marked && test c) m t

/-- The marked places where a condition holds. -/
def Marks.atAnchor (a : Anchor) (t : Text) (m : Marks) : Marks :=
  List.zipWith (fun marked (before, after) => marked && a.holds before after) m (neighbours t)

/-- Exactly `n` rounds; rounds that change nothing more are left out. -/
def Marks.rounds (round : Marks → Marks) : Nat → Marks → Marks
  | 0, m => m
  | n + 1, m =>
    let next := round m
    if next = m then m else rounds round n next

/-- At most `n` rounds; rounds that add nothing more are left out. -/
def Marks.upTo (round : Marks → Marks) : Nat → Marks → Marks
  | 0, m => m
  | n + 1, m =>
    let next := m.union (round m)
    if next = m then m else upTo round n next

/-! ## Matching -/

/-- The places where a match that starts at a marked place may end. -/
def Regex.run (t : Text) : Regex → Marks → Marks
  | .empty, m => m
  | .one test, m => m.advance test t
  | .anchor a, m => m.atAnchor a t
  | .sequence a b, m => b.run t (a.run t m)
  | .alternation a b, m => (a.run t m).union (b.run t m)
  | .repetition least most body, m =>
    let start := Marks.rounds (fun m => body.run t m) least m
    match most with
    | some most => Marks.upTo (fun m => body.run t m) (most - least) start
    | none => Marks.upTo (fun m => body.run t m) (t.length + 1) start

/-- Whether a text holds a match, starting at any place. -/
def Regex.search (r : Regex) (t : Text) : Bool :=
  (r.run t (List.replicate (t.length + 1) true)).any id

end Gazetteer.Pattern
