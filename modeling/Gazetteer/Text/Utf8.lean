/-
# Gazetteer.Text.Utf8 -- texts as bytes

The encoding is UTF-8. Decoding is strict: no overlong form, no surrogate, nothing beyond U+10FFFF,
and no sequence that is cut off.
-/
import Gazetteer.Text.Basic

namespace Gazetteer.Text

/-- The bytes of a text. -/
def utf8 (t : Text) : List UInt8 := t.flatMap String.utf8EncodeChar

/-- The payload of a byte that continues a sequence. -/
def continuation? (b : UInt8) : Option Nat :=
  if 0x80 ≤ b && b ≤ 0xBF then some (b.toNat - 0x80) else none

/-- The character with a code point, unless it is in the range that has a shorter form, a surrogate
or too large. -/
def codePoint? (least n : Nat) : Option Char :=
  if least ≤ n && (n < 0xD800 || (0xDFFF < n && n < 0x110000)) then some (Char.ofNat n) else none

/-- The character at the front of some bytes, and the number of bytes it takes. -/
def firstChar? : List UInt8 → Option (Char × Nat)
  | [] => none
  | b :: rest => do
    if b < 0x80 then some (Char.ofNat b.toNat, 1)
    else if b < 0xE0 then
      let x ← rest[0]? >>= continuation?
      (codePoint? 0x80 ((b.toNat - 0xC0) * 64 + x)).map (·, 2)
    else if b < 0xF0 then
      let x ← rest[0]? >>= continuation?
      let y ← rest[1]? >>= continuation?
      (codePoint? 0x800 (((b.toNat - 0xE0) * 64 + x) * 64 + y)).map (·, 3)
    else
      let x ← rest[0]? >>= continuation?
      let y ← rest[1]? >>= continuation?
      let z ← rest[2]? >>= continuation?
      (codePoint? 0x10000 ((((b.toNat - 0xF0) * 64 + x) * 64 + y) * 64 + z)).map (·, 4)

/-- The text of some bytes after the first `skip`. -/
def ofUtf8From? : Nat → List UInt8 → Option Text
  | _, [] => some []
  | skip + 1, _ :: rest => ofUtf8From? skip rest
  | 0, b :: rest =>
    match firstChar? (b :: rest) with
    | some (c, size) => (ofUtf8From? (size - 1) rest).map (c :: ·)
    | none => none

/-- The text that some bytes encode, if they are UTF-8. -/
def ofUtf8? (bytes : List UInt8) : Option Text := ofUtf8From? 0 bytes

end Gazetteer.Text
