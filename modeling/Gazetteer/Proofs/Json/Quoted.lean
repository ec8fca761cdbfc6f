/-
# Gazetteer.Proofs.Json.Quoted -- a quoted text is read back

Writing escapes the quote, the backslash and the controls, and leaves all other characters as they
are. Reading writes the escapes out again and copies all other bytes. Behind the opening quote of a
quoted text the reader therefore finds the bytes of the text itself, and the closing quote is the
first that no backslash stands before.
-/
import Gazetteer.Json.Quoted
import Gazetteer.Json.Value
import Gazetteer.Proofs.Json.Reading

namespace Gazetteer.Json

open Storage (Ending)
open Text (utf8)

/-! ## Plain bytes -/

/-- A byte that stands for itself inside quotes. -/
def IsPlainByte (b : UInt8) : Prop :=
  0x20 ≤ b.toNat ∧ Reader.sign b ≠ '"' ∧ Reader.sign b ≠ '\\'

theorem isPlainByte_of_le {b : UInt8} (h : 0x80 ≤ b.toNat) : IsPlainByte b := by
  have hsign : ∀ c : Char, c.toNat < 0x80 → Reader.sign b ≠ c := by
    rintro c hc rfl
    rw [toNat_sign] at hc
    omega
  exact ⟨by omega, hsign '"' (by decide), hsign '\\' (by decide)⟩

theorem quotedBytes_plain (ending : Ending) {u : List UInt8} (hu : ∀ b ∈ u, IsPlainByte b)
    (rest : List UInt8) :
    quotedBytes ending 0 (u ++ rest)
      = (quotedBytes ending 0 rest).map fun (bytes, rest) => (u ++ bytes, rest) := by
  induction u with
  | nil => cases hrest : quotedBytes ending 0 rest <;> simp [hrest, Except.map]
  | cons b u ih =>
    obtain ⟨hcontrol, hquote, hslash⟩ := hu b (by simp)
    have hle : ¬ b < 0x20 := by
      rw [UInt8.lt_iff_toNat_lt]
      exact Nat.not_lt_of_le hcontrol
    rw [List.cons_append, quotedBytes, if_neg hquote, if_neg hslash, if_neg hle,
      ih fun x hx => hu x (List.mem_cons_of_mem _ hx)]
    cases quotedBytes ending 0 rest <;> rfl

/-! ## Escapes -/

/-- Behind a backslash a character in the form that the writer gives it is read as one escape. -/
theorem quotedBytes_escape {ending : Ending} {u : List UInt8} {c : Char}
    (h : ∀ rest, escape ending (u ++ rest) = .ok (c, u.length)) (rest : List UInt8) :
    quotedBytes ending 0 (.ofNat '\\'.toNat :: u ++ rest)
      = (quotedBytes ending 0 rest).map fun (bytes, rest) =>
        (String.utf8EncodeChar c ++ bytes, rest) := by
  have hskip : ∀ v : List UInt8, quotedBytes ending v.length (v ++ rest)
      = quotedBytes ending 0 rest := by
    intro v
    induction v with
    | nil => rfl
    | cons b v ih => exact ih
  have hquote : Reader.sign (.ofNat '\\'.toNat) ≠ '"' := by decide
  have hslash : Reader.sign (.ofNat '\\'.toNat) = '\\' := by decide
  rw [List.cons_append, quotedBytes, if_neg hquote, if_pos hslash, h rest]
  simp only [hskip]

theorem hexValue?_hexDigit {n : Nat} (h : n < 16) :
    hexValue? (.ofNat (hexDigit n).toNat) = some n := by
  have hall : ∀ n < 16, hexValue? (.ofNat (hexDigit n).toNat) = some n := by decide
  exact hall n h

/-- A control that has no short escape is written with four digits. -/
theorem escape_control (ending : Ending) {c : Char} (h : c.toNat < 0x20) (rest : List UInt8) :
    escape ending ([.ofNat 'u'.toNat, .ofNat '0'.toNat, .ofNat '0'.toNat,
        .ofNat (hexDigit (c.toNat / 16)).toNat, .ofNat (hexDigit (c.toNat % 16)).toNat] ++ rest)
      = .ok (c, 5) := by
  have hhigh : c.toNat / 16 < 16 := by omega
  have hlow : c.toNat % 16 < 16 := by omega
  have hzero : hexValue? (.ofNat '0'.toNat) = some 0 := by decide
  have hvalue : ((0 * 16 + 0) * 16 + c.toNat / 16) * 16 + c.toNat % 16 = c.toNat := by omega
  have hmark : Reader.sign (.ofNat 'u'.toNat) = 'u' := by decide
  have htrailing : isTrailing c.toNat = false := by
    simp only [isTrailing, Bool.and_eq_false_iff, decide_eq_false_iff_not]
    omega
  have hleading : isLeading c.toNat = false := by
    simp only [isLeading, Bool.and_eq_false_iff, decide_eq_false_iff_not]
    omega
  simp only [escape, List.cons_append, if_pos hmark, unicodeEscape, fourHex, hzero,
    hexValue?_hexDigit hhigh, hexValue?_hexDigit hlow, hvalue]
  simp [htrailing, hleading, Except.map, bind, Except.bind]

theorem utf8_control {c : Char} (h : c.toNat < 0x20) :
    utf8 ("\\u00" ++ [hexDigit (c.toNat / 16), hexDigit (c.toNat % 16)])
      = .ofNat '\\'.toNat :: [.ofNat 'u'.toNat, .ofNat '0'.toNat, .ofNat '0'.toNat,
        .ofNat (hexDigit (c.toNat / 16)).toNat, .ofNat (hexDigit (c.toNat % 16)).toNat] := by
  have hascii : ∀ n < 16, (hexDigit n).toNat < 0x80 := by decide
  rw [Text.utf8_append, utf8_cons_ascii (hascii _ (by omega)),
    utf8_cons_ascii (hascii _ (by omega))]
  rfl

/-! ## Quoted texts -/

/-- One character inside quotes. -/
theorem quotedBytes_escapeChar (ending : Ending) (c : Char) (rest : List UInt8) :
    quotedBytes ending 0 (utf8 (escapeChar c) ++ rest)
      = (quotedBytes ending 0 rest).map fun (bytes, rest) =>
        (String.utf8EncodeChar c ++ bytes, rest) := by
  unfold escapeChar
  -- Seven characters have an escape of their own, the other controls are written by their number,
  -- and all others stand for themselves.
  split
  · exact quotedBytes_escape (u := [.ofNat '"'.toNat]) (fun rest => rfl) rest
  · exact quotedBytes_escape (u := [.ofNat '\\'.toNat]) (fun rest => rfl) rest
  · exact quotedBytes_escape (u := [.ofNat 'b'.toNat]) (fun rest => rfl) rest
  · exact quotedBytes_escape (u := [.ofNat 'f'.toNat]) (fun rest => rfl) rest
  · exact quotedBytes_escape (u := [.ofNat 'n'.toNat]) (fun rest => rfl) rest
  · exact quotedBytes_escape (u := [.ofNat 'r'.toNat]) (fun rest => rfl) rest
  · exact quotedBytes_escape (u := [.ofNat 't'.toNat]) (fun rest => rfl) rest
  · rename_i hquote hslash _ _ _ _ _
    split
    · rename_i hcontrol
      rw [utf8_control hcontrol]
      exact quotedBytes_escape (fun rest => escape_control ending hcontrol rest) rest
    · rename_i hcontrol
      rw [Text.utf8_cons, Text.utf8_nil, List.append_nil]
      refine quotedBytes_plain ending (fun b hb => ?_) rest
      rcases Nat.lt_or_ge c.toNat 0x80 with hascii | hascii
      · rw [Text.utf8EncodeChar_one hascii, List.mem_singleton] at hb
        subst hb
        refine ⟨?_, ?_, ?_⟩
        · rw [Text.toNat_byte (by omega)]
          omega
        · rwa [sign_ofNat hascii]
        · rwa [sign_ofNat hascii]
      · exact isPlainByte_of_le (Text.le_of_mem_utf8EncodeChar hascii hb)

theorem quotedBytes_body (ending : Ending) (t : Text) (rest : List UInt8) :
    quotedBytes ending 0 (utf8 (t.flatMap escapeChar ++ ['"']) ++ rest) = .ok (utf8 t, rest) := by
  induction t with
  | nil => rfl
  | cons c t ih =>
    rw [List.flatMap_cons, List.append_assoc, Text.utf8_append, List.append_assoc,
      quotedBytes_escapeChar, ih, Text.utf8_cons]
    rfl

/-- **A quoted text is read back**: behind its opening quote the reader takes it up to its closing
quote. -/
theorem quotedText_takes (t : Text) : Takes quotedText (t.flatMap escapeChar ++ ['"']) t := by
  intro ending rest
  simp only [quotedText, quotedBytes_body, Text.ofUtf8?_utf8]

end Gazetteer.Json
