/-
# Gazetteer.Proofs.Text.Utf8 -- the bytes of a text are read back as the text

A character is encoded in one to four bytes, by the size of its code point. The first byte tells how
many there are, and the others, all of them outside ASCII, carry six bits each.
-/
import Gazetteer.Text.Utf8

namespace Gazetteer.Text

/-! ## The bytes of a text -/

@[simp] theorem utf8_nil : utf8 [] = [] := rfl

theorem utf8_cons (c : Char) (t : Text) : utf8 (c :: t) = String.utf8EncodeChar c ++ utf8 t :=
  List.flatMap_cons

theorem utf8_append (s t : Text) : utf8 (s ++ t) = utf8 s ++ utf8 t := List.flatMap_append

/-- Every character takes a byte at least. -/
theorem length_le_utf8 (t : Text) : t.length ≤ (utf8 t).length := by
  induction t with
  | nil => exact Nat.le_refl 0
  | cons c t ih =>
    have hpos : 0 < (String.utf8EncodeChar c).length :=
      List.length_pos_iff.mpr String.utf8EncodeChar_ne_nil
    rw [utf8_cons, List.length_cons, List.length_append]
    omega

/-! ## The four sizes -/

variable {c : Char}

theorem utf8EncodeChar_one (h : c.toNat < 0x80) :
    String.utf8EncodeChar c = [.ofNat c.toNat] := by
  unfold String.utf8EncodeChar
  exact if_pos (Nat.le_of_lt_succ h)

theorem utf8EncodeChar_two (h₁ : 0x80 ≤ c.toNat) (h₂ : c.toNat < 0x800) :
    String.utf8EncodeChar c
      = [.ofNat (c.toNat / 64 % 32 + 0xC0), .ofNat (c.toNat % 64 + 0x80)] := by
  unfold String.utf8EncodeChar
  exact (if_neg (Nat.not_le_of_lt h₁)).trans (if_pos (Nat.le_of_lt_succ h₂))

theorem utf8EncodeChar_three (h₁ : 0x800 ≤ c.toNat) (h₂ : c.toNat < 0x10000) :
    String.utf8EncodeChar c
      = [.ofNat (c.toNat / 4096 % 16 + 0xE0), .ofNat (c.toNat / 64 % 64 + 0x80),
          .ofNat (c.toNat % 64 + 0x80)] := by
  have h₀ : 0x7F < c.toNat := by omega
  unfold String.utf8EncodeChar
  exact (if_neg (Nat.not_le_of_lt h₀)).trans
    ((if_neg (Nat.not_le_of_lt h₁)).trans (if_pos (Nat.le_of_lt_succ h₂)))

theorem utf8EncodeChar_four (h : 0x10000 ≤ c.toNat) :
    String.utf8EncodeChar c
      = [.ofNat (c.toNat / 262144 % 8 + 0xF0), .ofNat (c.toNat / 4096 % 64 + 0x80),
          .ofNat (c.toNat / 64 % 64 + 0x80), .ofNat (c.toNat % 64 + 0x80)] := by
  have h₀ : 0x7F < c.toNat := by omega
  have h₁ : 0x7FF < c.toNat := by omega
  unfold String.utf8EncodeChar
  exact (if_neg (Nat.not_le_of_lt h₀)).trans
    ((if_neg (Nat.not_le_of_lt h₁)).trans (if_neg (Nat.not_le_of_lt h)))

/-! ## Reading a character back -/

theorem toNat_byte {n : Nat} (h : n < 256) : (UInt8.ofNat n).toNat = n :=
  UInt8.toNat_ofNat_of_lt h

theorem continuation?_byte {x : Nat} (h : x < 64) :
    continuation? (.ofNat (x + 0x80)) = some x := by
  have hbyte : (UInt8.ofNat (x + 0x80)).toNat = x + 0x80 := toNat_byte (by omega)
  have hrange : 0x80 ≤ UInt8.ofNat (x + 0x80) ∧ UInt8.ofNat (x + 0x80) ≤ 0xBF := by
    rw [UInt8.le_iff_toNat_le, UInt8.le_iff_toNat_le, hbyte]
    exact ⟨Nat.le_add_left .., Nat.le_of_lt_succ (by show x + 128 < 192; omega)⟩
  rw [continuation?, if_pos (by simpa using hrange), hbyte, Nat.add_sub_cancel]

/-- No character is a surrogate or too large. -/
theorem codePoint?_toNat {least : Nat} (h : least ≤ c.toNat) :
    codePoint? least c.toNat = some c := by
  have hvalid : c.toNat < 0xD800 ∨ 0xDFFF < c.toNat ∧ c.toNat < 0x110000 := c.valid
  rw [codePoint?, if_pos (by simpa using ⟨h, hvalid⟩), Char.ofNat_toNat]

theorem byte_lt_iff {n : Nat} (h : n < 256) {b : UInt8} : UInt8.ofNat n < b ↔ n < b.toNat := by
  rw [UInt8.lt_iff_toNat_lt, toNat_byte h]

/-- The first character of some bytes is the one whose encoding they start with. -/
theorem firstChar?_append (c : Char) (rest : List UInt8) :
    firstChar? (String.utf8EncodeChar c ++ rest)
      = some (c, (String.utf8EncodeChar c).length) := by
  have hvalid : c.toNat < 0xD800 ∨ 0xDFFF < c.toNat ∧ c.toNat < 0x110000 := c.valid
  rcases Nat.lt_or_ge c.toNat 0x80 with h₁ | h₁
  · have hlead : UInt8.ofNat c.toNat < 0x80 := (byte_lt_iff (by omega)).mpr h₁
    rw [utf8EncodeChar_one h₁, List.singleton_append, firstChar?, if_pos hlead,
      toNat_byte (by omega), Char.ofNat_toNat]
    rfl
  -- From here on the first byte says how many others there are; the six bits of each of them and
  -- what the first byte carries make up the code point again.
  rcases Nat.lt_or_ge c.toNat 0x800 with h₂ | h₂
  · have hbyte : c.toNat / 64 % 32 + 0xC0 < 256 := by omega
    have hnot : ¬ UInt8.ofNat (c.toNat / 64 % 32 + 0xC0) < 0x80 := by
      rw [byte_lt_iff hbyte]
      show ¬ c.toNat / 64 % 32 + 192 < 128
      omega
    have hlead : UInt8.ofNat (c.toNat / 64 % 32 + 0xC0) < 0xE0 := by
      rw [byte_lt_iff hbyte]
      show c.toNat / 64 % 32 + 192 < 224
      omega
    have hcode : (c.toNat / 64 % 32 + 0xC0 - 0xC0) * 64 + c.toNat % 64 = c.toNat := by omega
    rw [utf8EncodeChar_two h₁ h₂]
    simp only [firstChar?, List.cons_append, List.nil_append, if_neg hnot, if_pos hlead,
      List.getElem?_cons_zero, Option.bind_eq_bind, Option.bind_some,
      continuation?_byte (Nat.mod_lt _ (by decide : 64 > 0)), toNat_byte hbyte, hcode,
      codePoint?_toNat h₁]
    rfl
  rcases Nat.lt_or_ge c.toNat 0x10000 with h₃ | h₃
  · have hbyte : c.toNat / 4096 % 16 + 0xE0 < 256 := by omega
    have hnot : ∀ k : UInt8, k.toNat ≤ 0xE0 →
        ¬ UInt8.ofNat (c.toNat / 4096 % 16 + 0xE0) < k := by
      intro k hk
      rw [byte_lt_iff hbyte]
      omega
    have hlead : UInt8.ofNat (c.toNat / 4096 % 16 + 0xE0) < 0xF0 := by
      rw [byte_lt_iff hbyte]
      show c.toNat / 4096 % 16 + 224 < 240
      omega
    have hcode : ((c.toNat / 4096 % 16 + 0xE0 - 0xE0) * 64 + c.toNat / 64 % 64) * 64
        + c.toNat % 64 = c.toNat := by omega
    rw [utf8EncodeChar_three h₂ h₃]
    simp only [firstChar?, List.cons_append, List.nil_append, if_neg (hnot 0x80 (by decide)),
      if_neg (hnot 0xE0 (by decide)), if_pos hlead,
      List.getElem?_cons_zero, List.getElem?_cons_succ, Option.bind_eq_bind, Option.bind_some,
      continuation?_byte (Nat.mod_lt _ (by decide : 64 > 0)), toNat_byte hbyte, hcode,
      codePoint?_toNat h₂]
    rfl
  · have hbyte : c.toNat / 262144 % 8 + 0xF0 < 256 := by omega
    have hnot : ∀ k : UInt8, k.toNat ≤ 0xF0 →
        ¬ UInt8.ofNat (c.toNat / 262144 % 8 + 0xF0) < k := by
      intro k hk
      rw [byte_lt_iff hbyte]
      omega
    have hcode : (((c.toNat / 262144 % 8 + 0xF0 - 0xF0) * 64 + c.toNat / 4096 % 64) * 64
        + c.toNat / 64 % 64) * 64 + c.toNat % 64 = c.toNat := by omega
    rw [utf8EncodeChar_four h₃]
    simp only [firstChar?, List.cons_append, List.nil_append, if_neg (hnot 0x80 (by decide)),
      if_neg (hnot 0xE0 (by decide)), if_neg (hnot 0xF0 (by decide)),
      List.getElem?_cons_zero, List.getElem?_cons_succ, Option.bind_eq_bind, Option.bind_some,
      continuation?_byte (Nat.mod_lt _ (by decide : 64 > 0)), toNat_byte hbyte, hcode,
      codePoint?_toNat h₃]
    rfl

/-! ## Reading a text back -/

theorem ofUtf8From?_append (u rest : List UInt8) :
    ofUtf8From? u.length (u ++ rest) = ofUtf8From? 0 rest := by
  induction u with
  | nil => rfl
  | cons b u ih => exact ih

theorem ofUtf8From?_char (c : Char) (rest : List UInt8) :
    ofUtf8From? 0 (String.utf8EncodeChar c ++ rest) = (ofUtf8From? 0 rest).map (c :: ·) := by
  have hfirst := firstChar?_append c rest
  obtain ⟨b, others, hcons⟩ := List.exists_cons_of_ne_nil (String.utf8EncodeChar_ne_nil (c := c))
  rw [hcons, List.cons_append] at hfirst ⊢
  rw [ofUtf8From?, hfirst]
  show (ofUtf8From? others.length (others ++ rest)).map (c :: ·) = _
  rw [ofUtf8From?_append]

/-- **The bytes of a text encode the text.** -/
theorem ofUtf8?_utf8 (t : Text) : ofUtf8? (utf8 t) = some t := by
  show ofUtf8From? 0 (utf8 t) = some t
  induction t with
  | nil => rfl
  | cons c t ih =>
    rw [utf8_cons, ofUtf8From?_char, ih]
    rfl

/-! ## ASCII and the rest -/

/-- Outside ASCII every byte of a character is outside ASCII. -/
theorem le_of_mem_utf8EncodeChar (h : 0x80 ≤ c.toNat) {b : UInt8}
    (hb : b ∈ String.utf8EncodeChar c) : 0x80 ≤ b.toNat := by
  have hvalid : c.toNat < 0xD800 ∨ 0xDFFF < c.toNat ∧ c.toNat < 0x110000 := c.valid
  have hall : ∀ n, 0x80 ≤ n → n < 256 → b = .ofNat n → 0x80 ≤ b.toNat := by
    rintro n hle hlt rfl
    rwa [toNat_byte hlt]
  rcases Nat.lt_or_ge c.toNat 0x800 with h₂ | h₂
  · rw [utf8EncodeChar_two h h₂] at hb
    simp only [List.mem_cons, List.not_mem_nil, or_false] at hb
    rcases hb with hb | hb <;> exact hall _ (by omega) (by omega) hb
  rcases Nat.lt_or_ge c.toNat 0x10000 with h₃ | h₃
  · rw [utf8EncodeChar_three h₂ h₃] at hb
    simp only [List.mem_cons, List.not_mem_nil, or_false] at hb
    rcases hb with hb | hb | hb <;> exact hall _ (by omega) (by omega) hb
  · rw [utf8EncodeChar_four h₃] at hb
    simp only [List.mem_cons, List.not_mem_nil, or_false] at hb
    rcases hb with hb | hb | hb | hb <;> exact hall _ (by omega) (by omega) hb

end Gazetteer.Text
