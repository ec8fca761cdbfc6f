/-
# Gazetteer.Proofs.Pattern.Parts -- patterns by their parts

A pattern is sequences with bars between them, a sequence is items with repetitions behind them, and
an item is a group of such a pattern or a leaf: a character, a class, a condition. Which leaves
there are, and how a group may be named, differs from one use to another. All the rest is here: how
parts are put together and what repetitions mean, the text of a pattern, and the text that is left
when its classes are written out. Nothing is said of whether that text can be read.

Both texts come from one function. A text depends on how a backslash and its letter are written, and
writing out replaces exactly that.
-/
import Gazetteer.Proofs.Pattern.Expansion
import Gazetteer.Proofs.Pattern.Language

namespace Gazetteer.Pattern

open scoped Powers

/-! ## Characters -/

/-- The punctuation of ASCII. -/
def isPunctuation (c : Char) : Bool := 0x20 < c.toNat && c.toNat < 0x7F && !c.isAlphanum

theorem classText_of_isPunctuation {c : Char} (hc : isPunctuation c = true) :
    classText c = ['\\', c] := by
  unfold classText
  split
  · exact absurd hc (by decide)
  · exact absurd hc (by decide)
  · exact absurd hc (by decide)
  · exact absurd hc (by decide)
  · rfl

/-- The characters that stand for themselves in some place, by themselves or behind a backslash. -/
structure Alphabet where
  bare : Char → Bool
  escaped : Char → Bool
  /-- A backslash by itself is none. -/
  bare_backslash : bare '\\' = false
  isPunctuation_of_escaped : ∀ c, escaped c = true → isPunctuation c = true

/-- A character that stands for itself. -/
structure Sign (a : Alphabet) where
  char : Char
  escaped : Bool := false
  valid : (if escaped then a.escaped char else a.bare char) = true := by decide

namespace Sign

variable {a : Alphabet}

/-- The text of a sign. -/
def text (s : Sign a) : Text := if s.escaped then ['\\', s.char] else [s.char]

/-- The first character of a sign. -/
def front (s : Sign a) : Char := if s.escaped then '\\' else s.char

/-- A sign is a character by itself, or one behind a backslash. -/
theorem text_cases (s : Sign a) :
    (s.text = [s.char] ∧ s.front = s.char ∧ a.bare s.char = true)
      ∨ (s.text = ['\\', s.char] ∧ s.front = '\\' ∧ a.escaped s.char = true) := by
  have hvalid := s.valid
  rw [text, front]
  cases hescaped : s.escaped with
  | false =>
    rw [hescaped] at hvalid
    exact .inl ⟨rfl, rfl, hvalid⟩
  | true =>
    rw [hescaped] at hvalid
    exact .inr ⟨rfl, rfl, hvalid⟩

/-- Signs are left as they are. -/
theorem expands (s : Sign a) : Expands s.text s.text := by
  rcases s.text_cases with ⟨htext, -, hbare⟩ | ⟨htext, -, hescaped⟩
  · rw [htext]
    refine .plain fun hmem => ?_
    rw [← List.mem_singleton.mp hmem, a.bare_backslash] at hbare
    exact absurd hbare (by decide)
  · have h := Expands.escape s.char
    rwa [classText_of_isPunctuation (a.isPunctuation_of_escaped _ hescaped), ← htext] at h

/-- The text of a range. -/
def through (lo hi : Sign a) : Text := lo.text ++ '-' :: hi.text

theorem expands_through (lo hi : Sign a) : Expands (lo.through hi) (lo.through hi) :=
  lo.expands.append (.cons (by decide) hi.expands)

end Sign

/-- The kinds of character that are written as a backslash and a letter. -/
inductive Kind where
  | digit
  | word
  | blank

/-- Whether a character is of a kind. -/
def Kind.holds : Kind → Char → Bool
  | .digit, c => c.isDigit
  | .word, c => c.isAlphanum || c == '_'
  | .blank, c => Text.isBlankChar c

/-- The letter of a kind, or of all the characters that are not of the kind. -/
def Kind.letter (k : Kind) (negated : Bool) : Char :=
  match k with
  | .digit => if negated then 'D' else 'd'
  | .word => if negated then 'W' else 'w'
  | .blank => if negated then 'S' else 's'

/-- A backslash and a letter. -/
abbrev backslashed (letter : Char) : Text := ['\\', letter]

/-! ## Classes -/

section Bracketed

variable {Item : Type}

/-- The text of a class: a front and items between square brackets. -/
def bracketed (front : Text) (items : List Item) (text : Item → Text) : Text :=
  '[' :: front ++ items.flatMap text ++ [']']

theorem bracketed_append (front : Text) (items : List Item) (text : Item → Text) (rest : Text) :
    bracketed front items text ++ rest
      = '[' :: (front ++ (items.flatMap text ++ ']' :: rest)) := by
  simp [bracketed]

theorem expands_bracketed {front : Text} (hfront : '\\' ∉ front) {items : List Item}
    {f g : Item → Text} (hitems : ∀ i ∈ items, Expands (f i) (g i)) :
    Expands (bracketed front items f) (bracketed front items g) := by
  have hopen : Expands ('[' :: front) ('[' :: front) := .cons (by decide) (.plain hfront)
  exact (hopen.append (.flatMap hitems)).append (.plain (by decide))

end Bracketed

/-! ## Repetitions -/

/-- The number that digits write. -/
def decimal (digits : Text) : Nat := digits.foldl (fun n c => 10 * n + (c.toNat - 48)) 0

/-- A number in a repetition. -/
structure Numeral where
  digits : Text
  valid : (!digits.isEmpty && digits.all Char.isDigit
    && decimal digits < 2 ^ (32 : Nat)) = true := by decide

/-- The value of a number. -/
def Numeral.value (n : Numeral) : Nat := decimal n.digits

/-- How often something is repeated. -/
inductive Count where
  /-- At most once, `?`. -/
  | optional
  /-- Any number of times, `*`. -/
  | anyNumber
  /-- At least once, `+`. -/
  | atLeastOnce
  | exactly (n : Numeral)
  | atLeast (n : Numeral)
  | between (least most : Numeral) (ordered : least.value ≤ most.value)

namespace Count

/-- The text of a count. -/
def text : Count → Text
  | optional => ['?']
  | anyNumber => ['*']
  | atLeastOnce => ['+']
  | exactly n => '{' :: n.digits ++ ['}']
  | atLeast n => '{' :: n.digits ++ [',', '}']
  | between least most _ => '{' :: least.digits ++ ',' :: most.digits ++ ['}']

/-- The least number of times. -/
def least : Count → Nat
  | optional | anyNumber => 0
  | atLeastOnce => 1
  | exactly n | atLeast n => n.value
  | between least _ _ => least.value

/-- The greatest number of times, if there is one. -/
def most : Count → Option Nat
  | optional => some 1
  | anyNumber | atLeastOnce | atLeast _ => none
  | exactly n => some n.value
  | between _ most _ => some most.value

theorem notMem_text (c : Count) : '\\' ∉ c.text := by
  have hdigits : ∀ n : Numeral, '\\' ∉ n.digits := by
    intro n hmem
    have hvalid := n.valid
    simp only [Bool.and_eq_true, List.all_eq_true] at hvalid
    exact absurd (hvalid.1.2 _ hmem) (by decide)
  cases c <;> simp [text, hdigits]

end Count

/-- A repetition. A lazy one has a question mark behind it. -/
structure Quantifier where
  count : Count
  isLazy : Bool := false

/-- The text of a repetition. -/
def Quantifier.text (q : Quantifier) : Text := q.count.text ++ if q.isLazy then ['?'] else []

/-- Whether one repetition may stand right behind another: a question mark behind a repetition that
is not lazy would make it so. -/
def Quantifier.mayPrecede (q r : Quantifier) : Bool :=
  q.isLazy || match r.count with
    | .optional => false
    | _ => true

/-- Whether each repetition may stand right behind the one before it. -/
def areSeparate : List Quantifier → Bool
  | q :: r :: rest => q.mayPrecede r && areSeparate (r :: rest)
  | _ => true

/-- The repetitions behind one item; each repeats what those before it make of the item. -/
structure Quantifiers where
  list : List Quantifier := []
  valid : areSeparate list = true := by decide

/-- The language of a repetition. -/
def Quantifier.apply (L : Language) (q : Quantifier) : Language :=
  L.repeated q.count.least q.count.most

/-- The node that a repetition of a node is read as. -/
def Quantifier.node (n : Node) (q : Quantifier) : Node := .repetition q.count.least q.count.most n

/-- The text of some repetitions. -/
def Quantifiers.text (qs : Quantifiers) : Text := qs.list.flatMap Quantifier.text

theorem Quantifiers.expands (qs : Quantifiers) : Expands qs.text qs.text := by
  refine .flatMap fun q _ => .plain ?_
  rw [Quantifier.text, List.mem_append, not_or]
  refine ⟨q.count.notMem_text, ?_⟩
  split <;> decide

/-! ## Patterns -/

/-- What opens a group. -/
inductive Opening (Name : Type) where
  | numbered
  | unnumbered
  /-- A name, with or without the letter in front of it. -/
  | named (letter : Bool) (name : Name)

mutual

/-- An item of a pattern without its repetitions. -/
inductive Atom (Leaf Name : Type) where
  | leaf (l : Leaf)
  /-- A pattern in round brackets. -/
  | group (opening : Opening Name) (body : Alternation Leaf Name)

/-- Items one behind the other. -/
inductive Sequence (Leaf Name : Type) where
  | nil
  | cons (first : Atom Leaf Name) (quantifiers : Quantifiers) (others : Sequence Leaf Name)

/-- Sequences with bars between them: a pattern. -/
inductive Alternation (Leaf Name : Type) where
  | one (s : Sequence Leaf Name)
  | cons (first : Sequence Leaf Name) (others : Alternation Leaf Name)

end

/-! ## Texts -/

/-- Parts that have a text, for every way to write a backslash and a letter. -/
class Written (Part : Type) where
  written : (Char → Text) → Part → Text

/-- Nothing is named, so there is nothing to write. -/
instance : Written Empty := ⟨fun _ name => name.elim⟩

section Text

variable {Leaf Name : Type} [Written Leaf] [Written Name] (escape : Char → Text)

/-- What stands behind the opening bracket of a group. -/
def Opening.written : Opening Name → Text
  | .numbered => []
  | .unnumbered => ['?', ':']
  | .named letter name =>
    '?' :: (if letter then ['P'] else []) ++ '<' :: Written.written escape name ++ ['>']

mutual

/-- An item of a pattern, with all backslashes and letters written in some way. -/
def Atom.written : Atom Leaf Name → Text
  | .leaf l => Written.written escape l
  | .group opening body => '(' :: opening.written escape ++ body.written ++ [')']

/-- Items one behind the other, with all backslashes and letters written in some way. -/
def Sequence.written : Sequence Leaf Name → Text
  | .nil => []
  | .cons first quantifiers others => first.written ++ quantifiers.text ++ others.written

/-- A pattern, with all backslashes and letters written in some way. -/
def Alternation.written : Alternation Leaf Name → Text
  | .one s => s.written
  | .cons first others => first.written ++ '|' :: others.written

end

end Text

/-! ## Patterns written out -/

/-- Parts whose text is written out by itself. -/
class Expandable (Part : Type) [Written Part] : Prop where
  expands : ∀ x : Part, Expands (Written.written backslashed x) (Written.written classText x)

instance : Expandable Empty := ⟨fun name => name.elim⟩

section WrittenOut

variable {Leaf Name : Type} [Written Leaf] [Written Name]

theorem Opening.expands [Expandable Name] (opening : Opening Name) :
    Expands (opening.written backslashed) (opening.written classText) := by
  match opening with
  | .numbered => exact .nil
  | .unnumbered => exact .plain (a := ['?', ':']) (by decide)
  | .named letter name =>
    have hfront : Expands ('?' :: if letter then ['P'] else [])
        ('?' :: if letter then ['P'] else []) := by
      refine .plain ?_
      cases letter <;> decide
    exact (hfront.append (.cons (by decide) (Expandable.expands name))).append
      (.plain (by decide))

mutual

/-- The classes of a pattern are written out part by part. -/
theorem Atom.expands [Expandable Leaf] [Expandable Name] : (a : Atom Leaf Name) →
    Expands (a.written backslashed) (a.written classText)
  | .leaf l => Expandable.expands l
  | .group opening body =>
    ((Expands.cons (by decide) opening.expands).append body.expands).append (.plain (by decide))

theorem Sequence.expands [Expandable Leaf] [Expandable Name] : (s : Sequence Leaf Name) →
    Expands (s.written backslashed) (s.written classText)
  | .nil => .nil
  | .cons first quantifiers others =>
    (first.expands.append quantifiers.expands).append others.expands

theorem Alternation.expands [Expandable Leaf] [Expandable Name] : (p : Alternation Leaf Name) →
    Expands (p.written backslashed) (p.written classText)
  | .one s => s.expands
  | .cons first others => first.expands.append (.cons (by decide) others.expands)

end

end WrittenOut

end Gazetteer.Pattern
