/-
# Gazetteer.Proofs.Pattern.Plain -- plain patterns: their text and their language

A plain pattern is what records need of patterns: characters, classes, groups, alternatives,
repetitions and the two ends of a text, without flags and without names. It is given part by part,
as it is written. Parts that could not be written so, such as a range that runs backwards, or that
would be read as something else, such as a bare bracket, cannot be put together.

Two things are said of a plain pattern, and neither mentions how it is read: its text, and the
language it stands for. Digits and word characters are those of ASCII, white space is that of
Unicode, and the dot is any character but a line feed.
-/
import Gazetteer.Proofs.Pattern.Parts

namespace Gazetteer.Pattern.Plain

/-! ## Characters -/

/-- The characters that mean something else than themselves. -/
def reserved : Text :=
  ['\\', '.', '+', '*', '?', '(', ')', '|', '[', ']', '{', '}', '^', '$']

/-- The characters that mean, or could mean, something else than themselves in a class. -/
def reservedInClass : Text := reserved ++ ['&', '~', '-', '#']

/-- Every character that is not taken for another purpose, and punctuation behind a backslash. The
angle brackets are no such punctuation. -/
def allBut (taken : Text) (htaken : taken.contains '\\' = true) : Alphabet where
  bare c := !taken.contains c
  escaped c := isPunctuation c && c != '<' && c != '>'
  bare_backslash := by rw [htaken, Bool.not_true]
  isPunctuation_of_escaped c hc := by
    rw [Bool.and_eq_true, Bool.and_eq_true] at hc
    exact hc.1.1

/-- The characters that stand for themselves outside of classes. -/
abbrev outside : Alphabet := allBut reserved (by decide)

/-- The characters that stand for themselves in a class. -/
abbrev inClass : Alphabet := allBut reservedInClass (by decide)

/-! ## Classes -/

/-- The characters of a kind, or, if negated, all the others. -/
structure Shorthand where
  kind : Kind
  negated : Bool := false

/-- The letter behind the backslash. -/
def Shorthand.letter (s : Shorthand) : Char := s.kind.letter s.negated

/-- Whether a character is meant. -/
def Shorthand.holds (s : Shorthand) (c : Char) : Bool := s.kind.holds c != s.negated

/-- The characters between two characters, both included. -/
structure Range where
  lo : Sign inClass
  hi : Sign inClass
  ordered : lo.char ≤ hi.char := by decide

/-- An item of a class. -/
inductive Item where
  | literal (l : Sign inClass)
  | range (r : Range)
  | shorthand (s : Shorthand)

/-- Whether an item lists a character. -/
def Item.holds : Item → Char → Bool
  | .literal l, c => c == l.char
  | .range r, c => r.lo.char ≤ c && c ≤ r.hi.char
  | .shorthand s, c => s.holds c

/-- A class: one item or more between square brackets, and maybe a caret in front of them. -/
structure Class where
  negated : Bool := false
  first : Item
  others : List Item := []

/-- The items of a class. -/
def Class.items (s : Class) : List Item := s.first :: s.others

/-- What stands in front of the items. -/
def Class.caret (s : Class) : Text := if s.negated then ['^'] else []

/-- Whether a class holds a character. -/
def Class.holds (s : Class) (c : Char) : Bool := s.items.any (·.holds c) != s.negated

/-! ## Patterns -/

/-- An item of a pattern that is no group. -/
inductive Leaf where
  | literal (l : Sign outside)
  /-- The dot. -/
  | anyChar
  | shorthand (s : Shorthand)
  | set (s : Class)
  | caret
  | dollar

/-- An item of a pattern without its repetitions. No group has a name. -/
abbrev Atom := Pattern.Atom Leaf Empty

/-- Items one behind the other. -/
abbrev Sequence := Pattern.Sequence Leaf Empty

/-- A plain pattern. -/
abbrev Alternation := Pattern.Alternation Leaf Empty

/-! ## The text of a pattern -/

/-- An item of a class, with its backslash and letter written in some way. -/
def Item.written (escape : Char → Text) : Item → Text
  | .literal l => l.text
  | .range r => r.lo.through r.hi
  | .shorthand s => escape s.letter

/-- A class, with its backslashes and letters written in some way. -/
def Class.written (escape : Char → Text) (s : Class) : Text :=
  bracketed s.caret s.items (Item.written escape)

/-- An item that is no group, with its backslashes and letters written in some way. -/
def Leaf.written (escape : Char → Text) : Leaf → Text
  | .literal l => l.text
  | .anyChar => ['.']
  | .shorthand s => escape s.letter
  | .set s => s.written escape
  | .caret => ['^']
  | .dollar => ['$']

instance : Written Leaf := ⟨Leaf.written⟩

/-- The text of a pattern. -/
def Alternation.text (p : Alternation) : Text := p.written backslashed

theorem Item.expands (i : Item) : Expands (i.written backslashed) (i.written classText) := by
  match i with
  | .literal l => exact l.expands
  | .range r => exact r.lo.expands_through r.hi
  | .shorthand s => exact .escape s.letter

theorem Class.expands (s : Class) : Expands (s.written backslashed) (s.written classText) := by
  have hcaret : '\\' ∉ s.caret := by
    rw [caret]
    split <;> decide
  exact expands_bracketed hcaret fun i _ => i.expands

instance : Expandable Leaf where
  expands
    | .literal l => l.expands
    | .anyChar => .plain (a := ['.']) (by decide)
    | .shorthand s => .escape s.letter
    | .set s => s.expands
    | .caret => .plain (a := ['^']) (by decide)
    | .dollar => .plain (a := ['$']) (by decide)

/-- A stored plain pattern is read from its text with the classes written out. -/
theorem Alternation.source_escape (p : Alternation) :
    source (escape p.text) = p.written classText := by
  rw [source, unescape_escape]
  exact p.expands.eq

/-! ## The language of a pattern -/

/-- The language of an item that is no group. -/
def Leaf.Matches : Leaf → Language
  | .literal l => .one (· == l.char)
  | .anyChar => .one (· != '\n')
  | .shorthand s => .one s.holds
  | .set s => .one s.holds
  | .caret => .place fun before _ => before = []
  | .dollar => .place fun _ after => after = []

mutual

/-- The language of an item. -/
def Atom.Matches : Atom → Language
  | .leaf l => l.Matches
  | .group _ body => Alternation.Matches body

/-- The language of items one behind the other. -/
def Sequence.Matches : Sequence → Language
  | .nil => .empty
  | .cons first quantifiers others =>
    (quantifiers.list.foldl Quantifier.apply (Atom.Matches first)).followedBy
      (Sequence.Matches others)

/-- The language of a pattern. -/
def Alternation.Matches : Alternation → Language
  | .one s => Sequence.Matches s
  | .cons first others => (Sequence.Matches first).either (Alternation.Matches others)

end

/-! ## What a pattern is read as -/

/-- The set that a backslash and a letter are read as. -/
def Shorthand.set (s : Shorthand) : CharSet :=
  match s.kind with
  | .digit => .bracket s.negated (.union .nothing (.range '0' '9'))
  | .word =>
    .bracket s.negated
      (.union (.union (.union (.union .nothing (.range '0' '9')) (.range 'A' 'Z')) (.range 'a' 'z'))
        (.single '_'))
  | .blank => .blank s.negated

/-- The set that an item is read as. -/
def Item.set : Item → CharSet
  | .literal l => .single l.char
  | .range r => .range r.lo.char r.hi.char
  | .shorthand s => s.set

/-- The list that items are read as. -/
def itemsSet (current : CharSet) (items : List Item) : CharSet :=
  items.foldl (fun s i => .union s i.set) current

/-- The set that a class is read as. -/
def Class.set (s : Class) : CharSet := .bracket s.negated (itemsSet .nothing s.items)

/-- The node that an item is read as that is no group. -/
def Leaf.node : Leaf → Node
  | .literal l => .literal l.char
  | .anyChar => .anyChar
  | .shorthand s => .set s.set
  | .set s => .set s.set
  | .caret => .caret
  | .dollar => .dollar

mutual

/-- The node that an item is read as. -/
def Atom.node : Atom → Node
  | .leaf l => l.node
  | .group _ body => .group none {} (Alternation.node body)

/-- The node that items one behind the other are read as. -/
def Sequence.node : Sequence → Node
  | .nil => .empty
  | .cons first quantifiers others =>
    (quantifiers.list.foldl Quantifier.node (Atom.node first)).before (Sequence.node others)

/-- The node that a pattern is read as. -/
def Alternation.node : Alternation → Node
  | .one s => Sequence.node s
  | .cons first others => .alternation (Sequence.node first) (Alternation.node others)

end

end Gazetteer.Pattern.Plain
