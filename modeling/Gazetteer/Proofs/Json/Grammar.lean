/-
# Gazetteer.Proofs.Json.Grammar -- all JSON texts

The grammar of JSON as a syntax tree and the texts of a tree. A `Doc` holds numbers and texts as they
are written, digit by digit and escape by escape, since a reader that passes over a value must cope
with every way to write one: numbers of any size, and escapes that write half a character and so mean
no text. White space may stand around all parts; it is no part of the tree, and `Doc.Writes` lists all
texts of a tree.

`Literal.text?` says which text a literal means. What a number means is left to the reader of numbers,
which rounds.
-/
import Gazetteer.Json.Number
import Gazetteer.Json.Quoted
import Gazetteer.Proofs.Json.Listing
import Gazetteer.Proofs.Text.Numeral

namespace Gazetteer.Json

open Text (utf8 IsNumeral)

/-! ## Texts in quotes -/

/-- The hexadecimal digits in both letter cases. -/
def hexDigits : List Char := "0123456789abcdefABCDEF".toList

/-- A hexadecimal digit. -/
abbrev HexDigit : Type := {c : Char // c ∈ hexDigits}

/-- The value of a hexadecimal digit: its place among the digits in lower case. -/
def HexDigit.value (c : HexDigit) : Nat := ("0123456789abcdef".toList).idxOf c.val.toLower

/-- A piece of a text in quotes. -/
inductive Piece where
  /-- A character that stands for itself. -/
  | plain (c : Char) (h : 0x20 ≤ c.toNat ∧ c ≠ '"' ∧ c ≠ '\\')
  /-- A backslash with one of eight characters. -/
  | short (c : Char) (h : (shortEscape? c).isSome = true)
  /-- A backslash, `u`, and four digits. -/
  | code (a b c d : HexDigit)

/-- How a piece is written. -/
def Piece.written : Piece → Text
  | .plain c _ => [c]
  | .short c _ => ['\\', c]
  | .code a b c d => ['\\', 'u', a.val, b.val, c.val, d.val]

/-- The number that four digits write. -/
def unitOf (a b c d : HexDigit) : Nat := ((a.value * 16 + b.value) * 16 + c.value) * 16 + d.value

/-- The character that two halves of a pair make. -/
def pairChar (n m : Nat) : Char := Char.ofNat ((n - 0xD800) * 0x400 + (m - 0xDC00) + 0x10000)

/-- A text in quotes, piece by piece. -/
abbrev Literal : Type := List Piece

namespace Literal

/-- The pieces up to the closing quote. -/
def body (l : Literal) : Text := l.flatMap Piece.written ++ ['"']

/-- How a text is written, with its quotes. -/
def written (l : Literal) : Text := '"' :: l.body

/-- The text that pieces mean behind the first half of a pair, or behind no half. A half that stands
alone means nothing. -/
def textFrom? : Option Nat → Literal → Option Text
  | none, [] => some []
  | some _, [] => none
  | none, .plain c _ :: rest => (c :: ·) <$> textFrom? none rest
  | none, .short c h :: rest => ((shortEscape? c).get h :: ·) <$> textFrom? none rest
  | none, .code a b c d :: rest =>
    let n := unitOf a b c d
    if isTrailing n then none
    else if isLeading n then textFrom? (some n) rest
    else (Char.ofNat n :: ·) <$> textFrom? none rest
  | some n, .code a b c d :: rest =>
    let m := unitOf a b c d
    if isTrailing m then (pairChar n m :: ·) <$> textFrom? none rest else none
  | some _, _ :: _ => none

/-- The text that a literal means, if it means one. -/
def text? (l : Literal) : Option Text := textFrom? none l

/-- A text without quotes, backslashes and controls. -/
def ofPlain (t : Text) (h : ∀ c ∈ t, 0x20 ≤ c.toNat ∧ c ≠ '"' ∧ c ≠ '\\') : Literal :=
  t.attach.map fun c => .plain c.val (h c.val c.property)

end Literal

/-! ## Numbers -/

/-- A run of digits that is not empty. -/
abbrev Digits : Type := {t : Text // t ≠ [] ∧ ∀ c ∈ t, c.isDigit = true}

/-- An exponent: its letter, a sign or none, and its digits. -/
structure Exponent where
  mark : {c : Char // c = 'e' ∨ c = 'E'}
  sign : Option {c : Char // c = '+' ∨ c = '-'}
  digits : Digits

/-- How an exponent is written. -/
def Exponent.written (e : Exponent) : Text :=
  e.mark.val :: ((e.sign.map Subtype.val).toList ++ e.digits.val)

/-- A number as it is written. -/
structure NumberLiteral where
  negative : Bool
  whole : {t : Text // IsNumeral t}
  fraction : Option Digits
  exponent : Option Exponent

namespace NumberLiteral

/-- The exponent, if there is one. -/
def tail (n : NumberLiteral) : Text := (n.exponent.map Exponent.written).getD []

/-- What stands behind the whole part. -/
def behind (n : NumberLiteral) : Text := ((n.fraction.map fun ds => '.' :: ds.val).getD []) ++ n.tail

/-- A number without its minus sign. -/
def unsigned (n : NumberLiteral) : Text := n.whole.val ++ n.behind

/-- How a number is written. -/
def written (n : NumberLiteral) : Text := (if n.negative then ['-'] else []) ++ n.unsigned

end NumberLiteral

/-! ## Values -/

/-- A JSON value as it is written, but for white space. -/
inductive Doc where
  | null
  | boolean (b : Bool)
  | number (n : NumberLiteral)
  | text (l : Literal)
  | array (items : List Doc)
  | object (members : List (Literal × Doc))

/-- A member of an object. -/
abbrev Member : Type := Literal × Doc

namespace Doc

mutual

/-- The texts of a value. -/
inductive Writes : Doc → Text → Prop where
  | null : Writes .null "null"
  | boolean (b : Bool) : Writes (.boolean b) (booleanWord b)
  | number (n : NumberLiteral) : Writes (.number n) n.written
  | text (l : Literal) : Writes (.text l) l.written
  | array {items : List Doc} {t w : Text} (hitems : WritesItems true items t) (hw : IsSpace w) :
    Writes (.array items) ('[' :: (t ++ (w ++ [']'])))
  | object {members : List Member} {t w : Text} (hmembers : WritesMembers true members t)
    (hw : IsSpace w) : Writes (.object members) ('{' :: (t ++ (w ++ ['}'])))

/-- The texts of the items of a list; the flag says that no item stands before them. -/
inductive WritesItems : Bool → List Doc → Text → Prop where
  | nil {isFirst : Bool} : WritesItems isFirst [] []
  | cons {isFirst : Bool} {d : Doc} {items : List Doc} {u t w w' : Text} (hw : IsSpace w)
    (hw' : IsSpace w') (hd : Writes d u) (hitems : WritesItems false items t) :
    WritesItems isFirst (d :: items) (comma isFirst w ++ (w' ++ (u ++ t)))

/-- The texts of the members of an object; the flag says that no member stands before them. -/
inductive WritesMembers : Bool → List Member → Text → Prop where
  | nil {isFirst : Bool} : WritesMembers isFirst [] []
  | cons {isFirst : Bool} {key : Literal} {d : Doc} {members : List Member} {u t w w' x x' : Text}
    (hw : IsSpace w) (hw' : IsSpace w') (hx : IsSpace x) (hx' : IsSpace x') (hd : Writes d u)
    (hmembers : WritesMembers false members t) :
    WritesMembers isFirst ((key, d) :: members)
      (comma isFirst w ++ (w' ++ (key.written ++ ((x ++ ':' :: (x' ++ u)) ++ t))))

end

/-- A whole text holds the value and nothing else but white space. -/
def IsIn (d : Doc) (t : Text) : Prop :=
  ∃ u w w', d.Writes u ∧ IsSpace w ∧ IsSpace w' ∧ t = w ++ u ++ w'

/-! ## The shortest text -/

mutual

/-- The text without any white space. -/
def compact : Doc → Text
  | .null => "null"
  | .boolean b => booleanWord b
  | .number n => n.written
  | .text l => l.written
  | .array items => '[' :: (compactItems true items ++ [']'])
  | .object members => '{' :: (compactMembers true members ++ ['}'])
termination_by structural d => d

/-- The items of a list with commas between. -/
def compactItems (isFirst : Bool) : List Doc → Text
  | [] => []
  | d :: items => comma isFirst [] ++ (d.compact ++ compactItems false items)
termination_by structural items => items

/-- The members of an object with commas between. -/
def compactMembers (isFirst : Bool) : List Member → Text
  | [] => []
  | (key, d) :: members =>
    comma isFirst [] ++ (key.written ++ (':' :: d.compact ++ compactMembers false members))
termination_by structural members => members

end

mutual

theorem writes_compact : (d : Doc) → d.Writes d.compact
  | .null => .null
  | .boolean b => .boolean b
  | .number n => .number n
  | .text l => .text l
  | .array items => .array (w := []) (writesItems_compact true items) isSpace_nil
  | .object members => .object (w := []) (writesMembers_compact true members) isSpace_nil

theorem writesItems_compact (isFirst : Bool) :
    (items : List Doc) → WritesItems isFirst items (compactItems isFirst items)
  | [] => .nil
  | d :: items => by
    show WritesItems isFirst _ (comma isFirst [] ++ ([] ++ (d.compact ++ compactItems false items)))
    exact .cons isSpace_nil isSpace_nil (writes_compact d) (writesItems_compact false items)

theorem writesMembers_compact (isFirst : Bool) :
    (members : List Member) → WritesMembers isFirst members (compactMembers isFirst members)
  | [] => .nil
  | (key, d) :: members => by
    show WritesMembers isFirst _ (comma isFirst [] ++ ([] ++ (key.written
      ++ (([] ++ ':' :: ([] ++ d.compact)) ++ compactMembers false members))))
    exact .cons isSpace_nil isSpace_nil isSpace_nil isSpace_nil (writes_compact d)
      (writesMembers_compact false members)

end

/-- Every value has a text. -/
theorem isIn_compact (d : Doc) : d.IsIn d.compact :=
  ⟨d.compact, [], [], writes_compact d, isSpace_nil, isSpace_nil, by simp⟩

/-! ## First signs -/

/-- A sign that a number starts with. -/
def IsNumberSign (c : Char) : Prop := c = '-' ∨ c.isDigit = true

theorem IsNumberSign.isSign {c : Char} (h : IsNumberSign c) : IsSign c := by
  rcases h with rfl | hdigit
  · decide
  · refine ⟨digit_ascii hdigit, fun hspace => ?_⟩
    simp only [List.mem_cons, List.not_mem_nil, or_false] at hspace
    rcases hspace with rfl | rfl | rfl | rfl <;> exact absurd hdigit (by decide)

theorem IsNumberSign.ne {c d : Char} (h : IsNumberSign c) (hd : ¬ (d = '-' ∨ d.isDigit = true)) :
    c ≠ d := by
  rintro rfl
  exact hd h

/-- A number without its sign starts with a digit. -/
theorem exists_cons_unsigned (n : NumberLiteral) :
    ∃ c t, n.unsigned = c :: t ∧ c.isDigit = true := by
  obtain ⟨c, t, hcons⟩ := List.exists_cons_of_ne_nil n.whole.property.ne_nil
  refine ⟨c, t ++ n.behind, ?_, n.whole.property.isDigit c (by simp [hcons])⟩
  rw [NumberLiteral.unsigned, hcons]
  rfl

theorem exists_cons_number (n : NumberLiteral) :
    ∃ c t, n.written = c :: t ∧ IsNumberSign c := by
  obtain ⟨c, t, hcons, hc⟩ := exists_cons_unsigned n
  rw [NumberLiteral.written, hcons]
  cases n.negative with
  | false => exact ⟨c, t, rfl, .inr hc⟩
  | true => exact ⟨'-', c :: t, rfl, .inl rfl⟩

/-- A value starts with a sign that closes no bracket; only null starts with its letter. -/
theorem Writes.sign {d : Doc} {u : Text} (h : d.Writes u) :
    ∃ c t, u = c :: t ∧ IsSign c ∧ c ≠ ']' ∧ c ≠ '\x7d' ∧ (d ≠ .null → c ≠ 'n') := by
  cases h with
  | null =>
    exact ⟨'n', "ull", rfl, by decide, by decide, by decide, fun h => absurd rfl h⟩
  | boolean b =>
    cases b with
    | false => exact ⟨'f', "alse", rfl, by decide, by decide, by decide, fun _ => by decide⟩
    | true => exact ⟨'t', "rue", rfl, by decide, by decide, by decide, fun _ => by decide⟩
  | number n =>
    obtain ⟨c, t, hcons, hc⟩ := exists_cons_number n
    exact ⟨c, t, hcons, hc.isSign, hc.ne (by decide), hc.ne (by decide),
      fun _ => hc.ne (by decide)⟩
  | text l => exact ⟨'"', _, rfl, by decide, by decide, by decide, fun _ => by decide⟩
  | array _ _ => exact ⟨'[', _, rfl, by decide, by decide, by decide, fun _ => by decide⟩
  | object _ _ => exact ⟨'\x7b', _, rfl, by decide, by decide, by decide, fun _ => by decide⟩

/-- Only lists start with a square bracket, and only objects with a brace. -/
theorem Writes.array_or_object {d : Doc} {c : Char} {t : Text} (h : d.Writes (c :: t)) :
    (c = '[' → ∃ items, d = .array items) ∧ (c = '\x7b' → ∃ members, d = .object members) := by
  generalize hu : c :: t = u at h
  cases h with
  | null | text _ =>
    obtain ⟨rfl, -⟩ := List.cons.inj hu
    exact ⟨fun h => absurd h (by decide), fun h => absurd h (by decide)⟩
  | boolean b =>
    cases b <;>
    · obtain ⟨rfl, -⟩ := List.cons.inj hu
      exact ⟨fun h => absurd h (by decide), fun h => absurd h (by decide)⟩
  | number n =>
    obtain ⟨c', t', hcons, hc⟩ := exists_cons_number n
    obtain ⟨rfl, -⟩ := List.cons.inj (hu.trans hcons)
    exact ⟨fun h => absurd h (hc.ne (by decide)), fun h => absurd h (hc.ne (by decide))⟩
  | array _ _ =>
    obtain ⟨rfl, -⟩ := List.cons.inj hu
    exact ⟨fun _ => ⟨_, rfl⟩, fun h => absurd h (by decide)⟩
  | object _ _ =>
    obtain ⟨rfl, -⟩ := List.cons.inj hu
    exact ⟨fun h => absurd h (by decide), fun _ => ⟨_, rfl⟩⟩

/-! ## What follows an item -/

theorem WritesItems.startsComma {items : List Doc} {t : Text} (h : WritesItems false items t) :
    StartsComma t := by
  cases h with
  | nil => exact Or.inl rfl
  | @cons _ _ _ u t w w' hw _ _ _ => exact Or.inr ⟨w, w' ++ (u ++ t), hw, by simp [comma]⟩

theorem WritesMembers.startsComma {members : List Member} {t : Text}
    (h : WritesMembers false members t) : StartsComma t := by
  cases h with
  | nil => exact Or.inl rfl
  | @cons _ key _ _ u t w w' x x' hw _ _ _ _ _ =>
    exact Or.inr ⟨w, w' ++ (key.written ++ ((x ++ ':' :: (x' ++ u)) ++ t)), hw, by simp [comma]⟩

/-- Items are no more than the characters of their text. -/
theorem WritesItems.length_le {isFirst : Bool} {items : List Doc} {t : Text}
    (h : WritesItems isFirst items t) : items.length ≤ t.length := by
  induction items generalizing isFirst t with
  | nil => exact Nat.zero_le _
  | cons d items ih =>
    cases h with
    | cons _ _ hd hitems =>
      obtain ⟨c, u', rfl, -⟩ := hd.sign
      have hrest := ih hitems
      simp only [List.length_append, List.length_cons]
      omega

theorem WritesMembers.length_le {isFirst : Bool} {members : List Member} {t : Text}
    (h : WritesMembers isFirst members t) : members.length ≤ t.length := by
  induction members generalizing isFirst t with
  | nil => exact Nat.zero_le _
  | cons member members ih =>
    cases h with
    | cons _ _ _ _ _ hmembers =>
      have hrest := ih hmembers
      simp only [List.length_append, List.length_cons, Literal.written]
      omega

end Doc

end Gazetteer.Json
