/-
# Gazetteer.Gzip.Checksum -- the checksum of some bytes

The checksum is the cyclic redundancy check with the polynomial 0xEDB88320 in reversed bit order,
started from all ones and inverted at the end.
-/
import Gazetteer.Text.Basic

namespace Gazetteer.Gzip

/-- One bit of the division. -/
def divideBit (r : UInt32) : UInt32 := if r &&& 1 = 1 then (r >>> 1) ^^^ 0xEDB88320 else r >>> 1

/-- One byte of the division. -/
def divideByte (r : UInt32) (b : UInt8) : UInt32 := Nat.repeat divideBit 8 (r ^^^ b.toUInt32)

/-- The checksum of some bytes. -/
def checksum (bytes : List UInt8) : UInt32 := ~~~(bytes.foldl divideByte 0xFFFFFFFF)

/-- The number that some bytes write, the lowest first. -/
def littleEndian : List UInt8 → Nat
  | [] => 0
  | b :: rest => b.toNat + 256 * littleEndian rest

end Gazetteer.Gzip
