/-
# Gazetteer.Json.Value -- JSON values and their two layouts

The values that the library writes: its only numbers are counts. A value is written compactly,
without any white space, or laid out over lines with two spaces for each level, an empty list or
object staying on its line. A text is written with its quotes, backslashes and controls escaped and
all else as it is.
-/
import Gazetteer.Text.Basic

namespace Gazetteer

/-- A JSON value with counts as its numbers. -/
inductive Json where
  | null
  | boolean (b : Bool)
  | number (n : Nat)
  | text (t : Text)
  | array (items : List Json)
  | object (members : List (Text × Json))

namespace Json

/-! ## Texts -/

/-- The lower-case digit of a number below sixteen. -/
def hexDigit (n : Nat) : Char := if n < 10 then Char.ofNat (48 + n) else Char.ofNat (87 + n)

/-- A character inside quotes. -/
def escapeChar (c : Char) : Text :=
  match c with
  | '"' => ['\\', '"']
  | '\\' => ['\\', '\\']
  | '\x08' => ['\\', 'b']
  | '\x0C' => ['\\', 'f']
  | '\n' => ['\\', 'n']
  | '\r' => ['\\', 'r']
  | '\t' => ['\\', 't']
  | c =>
    if c.toNat < 0x20 then "\\u00" ++ [hexDigit (c.toNat / 16), hexDigit (c.toNat % 16)]
    else [c]

/-- A text in quotes. -/
def quoted (t : Text) : Text := '"' :: t.flatMap escapeChar ++ ['"']

/-- The word for a truth value. -/
def booleanWord (b : Bool) : Text := if b then "true" else "false"

/-! ## The compact layout -/

mutual

/-- The value without any white space. -/
def compact : Json → Text
  | .null => "null"
  | .boolean b => booleanWord b
  | .number n => Text.numeral n
  | .text t => quoted t
  | .array items => '[' :: compactItems items ++ [']']
  | .object members => '{' :: compactMembers members ++ ['}']
termination_by structural v => v

/-- The items of a list with commas between. -/
def compactItems : List Json → Text
  | [] => []
  | [v] => v.compact
  | v :: rest => v.compact ++ ',' :: compactItems rest
termination_by structural vs => vs

/-- The members of an object with commas between. -/
def compactMembers : List (Text × Json) → Text
  | [] => []
  | [(key, v)] => quoted key ++ ':' :: v.compact
  | (key, v) :: rest => quoted key ++ ':' :: v.compact ++ ',' :: compactMembers rest
termination_by structural ms => ms

end

/-! ## The layout over lines -/

/-- A line end, and the space at the front of a line at some level. -/
def newLine (level : Nat) : Text := '\n' :: List.replicate (2 * level) ' '

mutual

/-- The value over lines, its first line standing at some level. -/
def pretty (level : Nat) : Json → Text
  | .null => "null"
  | .boolean b => booleanWord b
  | .number n => Text.numeral n
  | .text t => quoted t
  | .array [] => ['[', ']']
  | .array items => '[' :: prettyItems (level + 1) items ++ newLine level ++ [']']
  | .object [] => ['{', '}']
  | .object members => '{' :: prettyMembers (level + 1) members ++ newLine level ++ ['}']
termination_by structural v => v

/-- The items of a list, each on its own line. -/
def prettyItems (level : Nat) : List Json → Text
  | [] => []
  | [v] => newLine level ++ v.pretty level
  | v :: rest => newLine level ++ v.pretty level ++ ',' :: prettyItems level rest
termination_by structural vs => vs

/-- The members of an object, each on its own line. -/
def prettyMembers (level : Nat) : List (Text × Json) → Text
  | [] => []
  | [(key, v)] => newLine level ++ quoted key ++ ':' :: ' ' :: v.pretty level
  | (key, v) :: rest =>
    newLine level ++ quoted key ++ ':' :: ' ' :: v.pretty level ++ ',' :: prettyMembers level rest
termination_by structural ms => ms

end

/-- A text or null. -/
def ofText? (t : Option Text) : Json := t.elim .null .text

/-- A list of texts. -/
def ofTexts (ts : List Text) : Json := .array (ts.map .text)

end Json

end Gazetteer
