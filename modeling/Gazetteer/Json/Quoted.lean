/-
# Gazetteer.Json.Quoted -- reading texts

A text stands in quotes. Inside, a control is malformed, and a backslash starts an escape: one of
eight characters, or `u` and four hexadecimal digits, of which two together write a character beyond
U+FFFF and one half alone is malformed. When the closing quote is reached, the bytes, escapes
included, must be UTF-8. A text that is only passed over may hold half characters and bytes that are
no UTF-8.

The walks are structural: the first argument counts the bytes of the escape just read that are still
to be passed over.
-/
import Gazetteer.Json.Reader
import Gazetteer.Text.Utf8

namespace Gazetteer.Json

open Storage (Ending)

/-! ## Escapes -/

/-- The value of a hexadecimal digit. -/
def hexValue? (b : UInt8) : Option Nat :=
  let c := Reader.sign b
  if c.isDigit then some (c.toNat - 48)
  else if 'a' ≤ c && c ≤ 'f' then some (c.toNat - 87)
  else if 'A' ≤ c && c ≤ 'F' then some (c.toNat - 55)
  else none

/-- The value of the four hexadecimal digits at the front of some bytes. -/
def fourHex (ending : Ending) : List UInt8 → Except Fault Nat
  | a :: b :: c :: d :: _ =>
    match hexValue? a, hexValue? b, hexValue? c, hexValue? d with
    | some a, some b, some c, some d => .ok (((a * 16 + b) * 16 + c) * 16 + d)
    | _, _, _, _ => .error .malformed
  | _ => .error (.atEnd ending)

/-- The character that a one-letter escape writes. -/
def shortEscape? (c : Char) : Option Char :=
  match c with
  | '"' => some '"'
  | '\\' => some '\\'
  | '/' => some '/'
  | 'b' => some '\x08'
  | 'f' => some '\x0C'
  | 'n' => some '\n'
  | 'r' => some '\r'
  | 't' => some '\t'
  | _ => none

/-- Whether a unit is the first half of a pair. -/
def isLeading (n : Nat) : Bool := 0xD800 ≤ n && n ≤ 0xDBFF

/-- Whether a unit is the second half of a pair. -/
def isTrailing (n : Nat) : Bool := 0xDC00 ≤ n && n ≤ 0xDFFF

/-- The character that four digits write at the front of some bytes, with the second escape of a
pair, and the number of bytes. -/
def unicodeEscape (ending : Ending) (bytes : List UInt8) : Except Fault (Char × Nat) := do
  let n ← fourHex ending bytes
  if isTrailing n then .error .malformed
  else if !isLeading n then .ok (Char.ofNat n, 4)
  else
    match bytes.drop 4 with
    | [] => .error (.atEnd ending)
    | b :: rest =>
      if Reader.sign b ≠ '\\' then .error .malformed
      else
        match rest with
        | [] => .error (.atEnd ending)
        | u :: rest =>
          if Reader.sign u ≠ 'u' then .error .malformed
          else do
            let m ← fourHex ending rest
            if isTrailing m then
              .ok (Char.ofNat ((n - 0xD800) * 0x400 + (m - 0xDC00) + 0x10000), 10)
            else .error .malformed

/-- The character that an escape writes, behind its backslash, and the number of bytes. -/
def escape (ending : Ending) : List UInt8 → Except Fault (Char × Nat)
  | [] => .error (.atEnd ending)
  | b :: rest =>
    if Reader.sign b = 'u' then
      (unicodeEscape ending rest).map fun (c, size) => (c, size + 1)
    else
      match shortEscape? (Reader.sign b) with
      | some c => .ok (c, 1)
      | none => .error .malformed

/-! ## Reading -/

/-- The bytes of a text up to its closing quote, escapes written out, and the bytes behind it. -/
def quotedBytes (ending : Ending) :
    Nat → List UInt8 → Except Fault (List UInt8 × List UInt8)
  | _, [] => .error (.atEnd ending)
  | skip + 1, _ :: rest => quotedBytes ending skip rest
  | 0, b :: rest =>
    if Reader.sign b = '"' then .ok ([], rest)
    else if Reader.sign b = '\\' then
      match escape ending rest with
      | .error f => .error f
      | .ok (c, size) =>
        (quotedBytes ending size rest).map fun (bytes, rest) =>
          (String.utf8EncodeChar c ++ bytes, rest)
    else if b < 0x20 then .error .malformed
    else (quotedBytes ending 0 rest).map fun (bytes, rest) => (b :: bytes, rest)

/-- A text behind its opening quote. -/
def quotedText : Reader Text := fun ending bytes =>
  match quotedBytes ending 0 bytes with
  | .error f => .error f
  | .ok (bytes, rest) =>
    match Text.ofUtf8? bytes with
    | some t => .ok (t, rest)
    | none => .error .malformed

/-! ## Passing over -/

/-- The number of bytes of an escape behind its backslash, whatever it writes. -/
def escapeSize (ending : Ending) : List UInt8 → Except Fault Nat
  | [] => .error (.atEnd ending)
  | b :: rest =>
    if Reader.sign b = 'u' then (fourHex ending rest).map (fun _ => 5)
    else if (shortEscape? (Reader.sign b)).isSome then .ok 1
    else .error .malformed

/-- The bytes behind the closing quote of a text that is passed over. -/
def skipQuoted (ending : Ending) : Nat → List UInt8 → Except Fault (List UInt8)
  | _, [] => .error (.atEnd ending)
  | skip + 1, _ :: rest => skipQuoted ending skip rest
  | 0, b :: rest =>
    if Reader.sign b = '"' then .ok rest
    else if Reader.sign b = '\\' then
      match escapeSize ending rest with
      | .error f => .error f
      | .ok size => skipQuoted ending size rest
    else if b < 0x20 then .error .malformed
    else skipQuoted ending 0 rest

end Gazetteer.Json
