/-
# Gazetteer.Proofs.Pattern.Narrow -- patterns of ASCII and white space

A narrow pattern is written with ASCII characters, the escapes for digits, word characters and white
space, classes that are not negated, groups, alternatives in groups, and repetitions, and it stands
between the two ends of a text. No part of it means a character outside ASCII that is no white
space. Only the text of such a pattern is given here, part by part, and it may be the text of none:
a range may run backwards, and an angle bracket may stand behind a backslash in a class.

What stands for itself depends on the place. In a class a hyphen does so at the front, before the
closing bracket, and behind a range or a backslash and letter. Behind a character it would make a
range, and if digits come next, that range would end in the bracket they are written out with. Two
ampersands or two tildes would make an operation.
-/
import Gazetteer.Proofs.Pattern.Parts

namespace Gazetteer.Pattern.Narrow

/-! ## Characters -/

/-- The characters that do not stand for themselves. -/
def special : Text := ['\\', '.', '+', '*', '?', '(', ')', '|', '[', '{', '^', '$']

/-- The characters that do not stand for themselves in a class, but for a hyphen in some places. -/
def specialInClass : Text := ['\\', '[', ']', '-']

/-- The characters of ASCII that are not taken for another purpose, and punctuation behind a
backslash. -/
def asciiBut (taken : Text) (htaken : taken.contains '\\' = true) : Alphabet where
  bare c := c.toNat < 128 && !taken.contains c
  escaped := isPunctuation
  bare_backslash := by rw [htaken, Bool.not_true, Bool.and_false]
  isPunctuation_of_escaped _ hc := hc

/-- The characters that stand for themselves outside of classes. -/
abbrev outside : Alphabet := asciiBut special (by decide)

/-- The characters that stand for themselves in a class. -/
abbrev inClass : Alphabet := asciiBut specialInClass (by decide)

/-! ## Classes -/

/-- An item of a class. -/
inductive Item where
  | sign (s : Sign inClass)
  | hyphen
  | range (lo hi : Sign inClass)
  | kind (k : Kind)

/-- The first character of an item. -/
def Item.front : Item → Char
  | .sign s => s.front
  | .hyphen => '-'
  | .range lo _ => lo.front
  | .kind _ => '\\'

/-- Whether an item may stand right behind another. -/
def Item.mayPrecede (i j : Item) : Bool :=
  match i with
  | .sign s => j.front != '-' && !(['&', '~'].contains s.front && j.front == s.front)
  | .hyphen => j.front != '-'
  | .range _ _ | .kind _ => true

/-- Whether each item may stand right behind the one before it. At the end a hyphen may stand behind
everything but another one. -/
def areApart : List Item → Bool
  | [i, .hyphen] => i.front != '-'
  | i :: j :: rest => i.mayPrecede j && areApart (j :: rest)
  | _ => true

/-- What may stand at the front of a class for itself: some hyphens, or the closing bracket. -/
inductive Front where
  | hyphens (count : Nat)
  | bracket

/-- The text of a front. -/
def Front.text : Front → Text
  | .hyphens count => List.replicate count '-'
  | .bracket => [']']

/-- Whether some items may stand behind a front: they do not start with another hyphen, and without
hyphens there must be an item, and no caret at its front. -/
def Front.admits (front : Front) (items : List Item) : Bool :=
  match front, items with
  | .hyphens 0, [] => false
  | .hyphens 0, i :: _ => i.front != '-' && i.front != '^'
  | .hyphens _, i :: _ => i.front != '-'
  | _, _ => true

/-- A class that is not negated. -/
structure Class where
  front : Front := .hyphens 0
  items : List Item
  valid : (front.admits items && areApart items) = true := by decide

/-! ## Patterns -/

/-- The name of a group; nothing but its end matters here. -/
structure Name where
  text : Text
  valid : (!text.contains '\\' && !text.contains '>') = true := by decide

instance : Written Name := ⟨fun _ name => name.text⟩

/-- An item of a pattern that is no group. -/
inductive Leaf where
  | sign (s : Sign outside)
  | kind (k : Kind)
  | set (s : Class)

/-- An item of a pattern without its repetitions. -/
abbrev Atom := Pattern.Atom Leaf Name

/-- Items one behind the other. -/
abbrev Sequence := Pattern.Sequence Leaf Name

/-- What stands in a group. -/
abbrev Alternation := Pattern.Alternation Leaf Name

/-! ## The text of a pattern -/

/-- An item of a class, with its backslash and letter written in some way. -/
def Item.written (escape : Char → Text) : Item → Text
  | .sign s => s.text
  | .hyphen => ['-']
  | .range lo hi => lo.through hi
  | .kind k => escape (k.letter false)

/-- A class, with its backslashes and letters written in some way. -/
def Class.written (escape : Char → Text) (s : Class) : Text :=
  bracketed s.front.text s.items (Item.written escape)

/-- An item that is no group, with its backslashes and letters written in some way. -/
def Leaf.written (escape : Char → Text) : Leaf → Text
  | .sign s => s.text
  | .kind k => escape (k.letter false)
  | .set s => s.written escape

instance : Written Leaf := ⟨Leaf.written⟩

/-- Items between the two ends of a text, with all backslashes and letters written in some way. -/
def Sequence.anchored (s : Sequence) (escape : Char → Text) : Text :=
  '^' :: s.written escape ++ ['$']

/-- The text of a pattern. -/
def Sequence.text (s : Sequence) : Text := s.anchored backslashed

/-! ## Patterns written out -/

theorem Item.expands (i : Item) : Expands (i.written backslashed) (i.written classText) := by
  match i with
  | .sign s => exact s.expands
  | .hyphen => exact .plain (by decide)
  | .range lo hi => exact lo.expands_through hi
  | .kind k => exact .escape (k.letter false)

theorem Class.expands (s : Class) : Expands (s.written backslashed) (s.written classText) := by
  have hfront : '\\' ∉ s.front.text := by
    cases s.front <;> simp [Front.text, List.mem_replicate]
  exact expands_bracketed hfront fun i _ => i.expands

instance : Expandable Leaf where
  expands
    | .sign s => s.expands
    | .kind k => .escape (k.letter false)
    | .set s => s.expands

instance : Expandable Name where
  expands name := by
    have hvalid := name.valid
    rw [Bool.and_eq_true] at hvalid
    exact .plain (a := name.text) (by simpa using hvalid.1)

/-- A stored narrow pattern is read from its text with the classes written out. -/
theorem Sequence.source_escape (s : Sequence) : source (escape s.text) = s.anchored classText := by
  have hcaret : Expands ('^' :: s.written backslashed) ('^' :: s.written classText) :=
    .cons (by decide) s.expands
  rw [source, unescape_escape]
  exact (hcaret.append (.plain (by decide))).eq

end Gazetteer.Pattern.Narrow
