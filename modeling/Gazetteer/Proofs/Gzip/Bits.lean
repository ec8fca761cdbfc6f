/-
# Gazetteer.Proofs.Gzip.Bits -- taking back what was written

Numbers are written in bits or in bytes, the lowest first, and bits are packed into bytes. Each way
of taking from the front of a row of bits gives back what was written there, and leaves what stands
behind it.
-/
import Gazetteer.Gzip.Bits
import Gazetteer.Gzip.Checksum

namespace Gazetteer.Gzip

open scoped Powers

/-! ## Numbers -/

/-- The lowest bits of a number, so many of them. -/
def lowBits (size value : Nat) : Bits := (List.range size).map value.testBit

@[simp] theorem length_lowBits (size value : Nat) : (lowBits size value).length = size := by
  simp [lowBits]

theorem lowBits_succ (size value : Nat) :
    lowBits (size + 1) value = value.testBit 0 :: lowBits size (value / 2) := by
  simp [lowBits, List.range_succ_eq_map, Function.comp_def, Nat.testBit_succ]

theorem valueOf_lowBits (size value : Nat) : valueOf (lowBits size value) = value % 2 ^ size := by
  induction size generalizing value with
  | zero => simp [lowBits, valueOf, Nat.mod_one]
  | succ size ih =>
    rw [lowBits_succ, valueOf, ih, Nat.toNat_testBit, Nat.pow_zero, Nat.div_one, Nat.pow_succ',
      Nat.mod_mul]

theorem valueOf_lt (bits : Bits) : valueOf bits < 2 ^ bits.length := by
  induction bits with
  | nil => simp [valueOf]
  | cons b bits ih =>
    have hb := b.toNat_lt
    rw [valueOf, List.length_cons, Nat.pow_succ]
    omega

theorem lowBits_valueOf (bits : Bits) : lowBits bits.length (valueOf bits) = bits := by
  induction bits with
  | nil => rfl
  | cons b bits ih =>
    have hb := b.toNat_lt
    have hhead : (valueOf (b :: bits)).testBit 0 = b := by
      rw [valueOf]
      cases b <;> simp
    have htail : valueOf (b :: bits) / 2 = valueOf bits := by
      rw [valueOf]
      omega
    rw [List.length_cons, lowBits_succ, hhead, htail, ih]

theorem splitBits?_append (front rest : Bits) :
    splitBits? front.length (front ++ rest) = some (front, rest) := by
  induction front with
  | nil => rfl
  | cons b front ih => rw [List.length_cons, List.cons_append, splitBits?, ih, Option.map_some]

theorem length_of_splitBits? {size : Nat} {bits front rest : Bits}
    (h : splitBits? size bits = some (front, rest)) : bits.length = size + rest.length := by
  induction size generalizing bits front with
  | zero =>
    obtain ⟨-, rfl⟩ := Prod.mk.inj (Option.some.inj h)
    exact (Nat.zero_add _).symm
  | succ size ih =>
    cases bits with
    | nil => exact absurd h (by simp [splitBits?])
    | cons b bits =>
      obtain ⟨⟨front, rest⟩, hsplit, heq⟩ := Option.map_eq_some_iff.mp h
      obtain ⟨-, rfl⟩ := Prod.mk.inj heq
      have hlength := ih hsplit
      rw [List.length_cons]
      omega

/-- A number that fits is taken back from its bits. -/
theorem number_lowBits {size value : Nat} (h : value < 2 ^ size) (rest : Bits) :
    number size (lowBits size value ++ rest) = .ok (value, rest) := by
  have hsplit := splitBits?_append (lowBits size value) rest
  rw [length_lowBits] at hsplit
  rw [number, hsplit]
  show Except.ok (valueOf (lowBits size value), rest) = _
  rw [valueOf_lowBits, Nat.mod_eq_of_lt h]

/-! ## Bytes -/

theorem byteBits_eq (b : UInt8) : byteBits b = lowBits 8 b.toNat := rfl

@[simp] theorem length_byteBits (b : UInt8) : (byteBits b).length = 8 := length_lowBits 8 b.toNat

theorem length_bitsOf (bytes : List UInt8) : (bitsOf bytes).length = 8 * bytes.length := by
  induction bytes with
  | nil => rfl
  | cons b bytes ih =>
    rw [bitsOf, List.flatMap_cons, ← bitsOf, List.length_append, ih, length_byteBits,
      List.length_cons]
    omega

theorem bitsOf_append (front rest : List UInt8) :
    bitsOf (front ++ rest) = bitsOf front ++ bitsOf rest := List.flatMap_append

/-- Bytes are taken back from their bits. -/
theorem takeBytes_bitsOf (bytes : List UInt8) (rest : Bits) :
    takeBytes bytes.length (bitsOf bytes ++ rest) = (bytes, rest) := by
  induction bytes with
  | nil => rfl
  | cons b bytes ih =>
    have hsplit := splitBits?_append (byteBits b) (bitsOf bytes ++ rest)
    have hvalue : valueOf (byteBits b) = b.toNat := by
      rw [byteBits_eq, valueOf_lowBits, Nat.mod_eq_of_lt b.toNat_lt]
    rw [length_byteBits] at hsplit
    rw [bitsOf, List.flatMap_cons, ← bitsOf, List.append_assoc, List.length_cons, takeBytes, hsplit]
    simp only [ih, hvalue, UInt8.ofNat_toNat]

/-- No byte is taken of which a bit is missing. -/
theorem length_takeBytes_le (count : Nat) (bits : Bits) :
    8 * (takeBytes count bits).1.length ≤ bits.length := by
  induction count generalizing bits with
  | zero => exact Nat.zero_le _
  | succ count ih =>
    rw [takeBytes]
    cases hsplit : splitBits? 8 bits with
    | none => exact Nat.zero_le _
    | some p =>
      have hlength := length_of_splitBits? hsplit
      have hothers := ih p.2
      simp only [List.length_cons]
      omega

/-- The bytes that hold a row of bits, so many of them. -/
def packed : Nat → Bits → List UInt8
  | 0, _ => []
  | count + 1, bits => .ofNat (valueOf (bits.take 8)) :: packed count (bits.drop 8)

theorem bitsOf_packed {count : Nat} {bits : Bits} (h : bits.length = 8 * count) :
    bitsOf (packed count bits) = bits := by
  induction count generalizing bits with
  | zero => exact (List.eq_nil_of_length_eq_zero h).symm
  | succ count ih =>
    have hfront : (bits.take 8).length = 8 := by
      rw [List.length_take]
      omega
    have hbyte : byteBits (.ofNat (valueOf (bits.take 8))) = bits.take 8 := by
      have hlt := valueOf_lt (bits.take 8)
      have hbits := lowBits_valueOf (bits.take 8)
      rw [hfront] at hlt hbits
      rw [byteBits_eq, UInt8.toNat_ofNat', Nat.mod_eq_of_lt hlt, hbits]
    have hrest : bitsOf (packed count (bits.drop 8)) = bits.drop 8 := by
      apply ih
      rw [List.length_drop]
      omega
    rw [packed, bitsOf, List.flatMap_cons, ← bitsOf, hbyte, hrest, List.take_append_drop]

/-! ## Whole bytes -/

/-- Bits that fill up the byte behind so many bits, taken from a byte. -/
def fillUp (filler : UInt8) (offset : Nat) : Bits := (byteBits filler).take ((8 - offset % 8) % 8)

theorem length_fillUp (filler : UInt8) (offset : Nat) :
    (fillUp filler offset).length = (8 - offset % 8) % 8 := by
  rw [fillUp, List.length_take, length_byteBits]
  omega

/-- What fills up a byte in front of whole bytes is passed over. -/
theorem drop_fillUp {rest : Bits} (h : rest.length % 8 = 0) (filler : UInt8) (offset : Nat) :
    (fillUp filler offset ++ rest).drop ((fillUp filler offset ++ rest).length % 8) = rest := by
  have hfill := length_fillUp filler offset
  have hlength : (fillUp filler offset ++ rest).length % 8 = (fillUp filler offset).length := by
    rw [List.length_append]
    omega
  rw [hlength, List.drop_left]

/-! ## Numbers in bytes -/

/-- The lowest bytes of a number, so many of them. -/
def lowBytes : Nat → Nat → List UInt8
  | 0, _ => []
  | count + 1, value => .ofNat value :: lowBytes count (value / 256)

@[simp] theorem length_lowBytes (count value : Nat) : (lowBytes count value).length = count := by
  induction count generalizing value with
  | zero => rfl
  | succ count ih => rw [lowBytes, List.length_cons, ih]

theorem littleEndian_lowBytes (count value : Nat) :
    littleEndian (lowBytes count value) = value % 256 ^ count := by
  induction count generalizing value with
  | zero => simp [lowBytes, littleEndian, Nat.mod_one]
  | succ count ih =>
    have hpow : 256 ^ (count + 1) = 256 * 256 ^ count := Nat.pow_succ'
    rw [lowBytes, littleEndian, ih, UInt8.toNat_ofNat', hpow, Nat.mod_mul]

/-- Bytes are told by the number that they write. -/
theorem lowBytes_littleEndian (bytes : List UInt8) :
    lowBytes bytes.length (littleEndian bytes) = bytes := by
  induction bytes with
  | nil => rfl
  | cons b bytes ih =>
    have hb : b.toNat < 256 := b.toNat_lt
    have hrest : (b.toNat + 256 * littleEndian bytes) / 256 = littleEndian bytes := by omega
    have hbyte : UInt8.ofNat (b.toNat + 256 * littleEndian bytes) = b := by
      apply UInt8.toNat_inj.mp
      rw [UInt8.toNat_ofNat']
      omega
    rw [List.length_cons, littleEndian, lowBytes, hrest, ih, hbyte]

/-- The lowest bytes of a number do not see what is above them. -/
theorem lowBytes_mod (count value : Nat) :
    lowBytes count (value % 256 ^ count) = lowBytes count value := by
  have hback := lowBytes_littleEndian (lowBytes count value)
  rwa [length_lowBytes, littleEndian_lowBytes] at hback

end Gazetteer.Gzip
