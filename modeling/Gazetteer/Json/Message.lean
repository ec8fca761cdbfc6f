/-
# Gazetteer.Json.Message -- what is told about a mismatch

A mismatch is told in one line that names what was found and what was expected. A text that was
found is shown in quotes, with controls, hidden characters and characters that cannot stand alone
written by their code.
-/
import Gazetteer.Json.Number
import Gazetteer.Text.Combining
import Gazetteer.Text.Hidden

namespace Gazetteer.Json

/-! ## Showing a text -/

/-- A number in lower-case hexadecimal digits. -/
def hexadecimal (n : Nat) : Text := Nat.toDigits 16 n

/-- A character of a text that is shown. -/
def shownChar (c : Char) : Text :=
  match c with
  | '\x00' => ['\\', '0']
  | '\t' => ['\\', 't']
  | '\n' => ['\\', 'n']
  | '\r' => ['\\', 'r']
  | '"' => ['\\', '"']
  | '\\' => ['\\', '\\']
  | c =>
    if Text.isCombining c || Text.isHidden c then
      "\\u\x7b" ++ hexadecimal c.toNat ++ ['}']
    else [c]

/-- A text as it is shown. -/
def shownText (t : Text) : Text := '"' :: t.flatMap shownChar ++ ['"']

/-- A whole number. -/
def signedNumeral (n : Int) : Text := (if n < 0 then ['-'] else []) ++ Text.numeral n.natAbs

/-- A text between backquotes. -/
def ticked (t : Text) : Text := '`' :: t ++ ['`']

/-! ## What is told -/

/-- What was found. -/
def Found.message : Found → Text
  | .null => "null"
  | .boolean b => "boolean " ++ ticked (if b then "true" else "false")
  | .integer n => "integer " ++ ticked (signedNumeral n)
  | .floating x => "floating point " ++ ticked (doubleText x)
  | .text t => "string " ++ shownText t
  | .sequence => "sequence"
  | .map => "map"

/-- What was expected. -/
def Expected.message : Expected → Text
  | .text => "a string"
  | .boolean => "a boolean"
  | .sequence => "a sequence"
  | .count => "usize"
  | .record title => "struct " ++ title
  | .label => "variant identifier"
  | .unit => "unit"

/-- The line that tells of a mismatch. -/
def Mismatch.message : Mismatch → Text
  | .wrongKind found expected =>
    "invalid type: " ++ found.message ++ ", expected " ++ expected.message
  | .wrongValue found expected =>
    "invalid value: " ++ found.message ++ ", expected " ++ expected.message
  | .tooShort index title size =>
    "invalid length " ++ Text.numeral index ++ ", expected struct " ++ title ++ " with "
      ++ Text.numeral size ++ (if size = 1 then " element" else " elements")
  | .unknownLabel given labels =>
    "unknown variant " ++ ticked given ++ ", expected one of "
      ++ Text.joined ", " (labels.map ticked)
  | .missingField key => "missing field " ++ ticked key
  | .duplicateField key => "duplicate field " ++ ticked key

end Gazetteer.Json
