/-
# Gazetteer.Gzip.Bits -- compressed data as a row of bits

Compressed data is read bit by bit, the lowest bit of each byte first. Taking bits fails in one of
two ways: the data is cut off, or what was read makes no sense.
-/
import Gazetteer.Text.Basic

namespace Gazetteer.Gzip

/-- A row of bits. -/
abbrev Bits := List Bool

/-! ## Bytes and bits -/

/-- The eight bits of a byte, the lowest first. -/
def byteBits (b : UInt8) : Bits := (List.range 8).map b.toNat.testBit

/-- The bits of some bytes. -/
def bitsOf (bytes : List UInt8) : Bits := bytes.flatMap byteBits

/-- The number that some bits write, the lowest first. -/
def valueOf : Bits → Nat
  | [] => 0
  | b :: rest => b.toNat + 2 * valueOf rest

/-! ## Taking -/

/-- Why compressed data cannot be read on. -/
inductive Stop where
  | cutOff
  | broken
  deriving DecidableEq, Repr

/-- Takes bits from the front. -/
abbrev Taker := StateT Bits (Except Stop)

/-- Stops. -/
def stop {α : Type} (why : Stop) : Taker α := fun _ => .error why

/-- Splits off so many bits, if they are there. -/
def splitBits? : Nat → Bits → Option (Bits × Bits)
  | 0, bits => some ([], bits)
  | _ + 1, [] => none
  | size + 1, b :: bits => (splitBits? size bits).map fun (front, rest) => (b :: front, rest)

/-- Takes a number of so many bits, the lowest first. -/
def number (size : Nat) : Taker Nat := fun bits =>
  match splitBits? size bits with
  | none => .error .cutOff
  | some (front, rest) => .ok (valueOf front, rest)

/-- Passes over the bits up to the next whole byte. -/
def alignToByte : Taker Unit := fun bits => .ok ((), bits.drop (bits.length % 8))

/-- Takes so many numbers of one size. -/
def numbers (size : Nat) : Nat → Taker (List Nat)
  | 0 => pure []
  | count + 1 => do
    let n ← number size
    (n :: ·) <$> numbers size count

/-- Takes so many bytes, as far as they go. -/
def takeBytes : Nat → Bits → List UInt8 × Bits
  | 0, bits => ([], bits)
  | count + 1, bits =>
    match splitBits? 8 bits with
    | none => ([], [])
    | some (front, rest) =>
      let (bytes, rest) := takeBytes count rest
      (.ofNat (valueOf front) :: bytes, rest)

end Gazetteer.Gzip
