/-
# Gazetteer.Gzip.Member -- compressed files

A compressed file is a header, compressed data, and a trailer with the checksum and the length of
what was compressed. The header may hold extra data, a name, a comment and a checksum of its own;
only the last of these matters. What follows the trailer does not matter.

When the data is broken, the bytes that were written since the last full window of 32768 are lost;
when it is cut off, or the trailer does not fit, all bytes come before the failure.
-/
import Gazetteer.Gzip.Checksum
import Gazetteer.Gzip.Inflate
import Gazetteer.Storage.Stream

namespace Gazetteer.Gzip

open scoped Powers

open Storage (ReadFailure Stream)

/-! ## The header -/

/-- Splits off so many bytes, which must be there. -/
def splitBytes (count : Nat) (bytes : List UInt8) :
    Except ReadFailure (List UInt8 × List UInt8) :=
  if bytes.length < count then .error .cutOff else .ok (bytes.splitAt count)

/-- Splits off the bytes up to a zero, which belongs to them and must be there. -/
def splitName : List UInt8 → Except ReadFailure (List UInt8 × List UInt8)
  | [] => .error .cutOff
  | b :: rest =>
    if b = 0 then .ok ([b], rest)
    else (splitName rest).map fun (name, rest) => (b :: name, rest)

/-- The bytes of a part of the header that is only there if a flag is set. -/
def optionalPart (present : Bool)
    (part : List UInt8 → Except ReadFailure (List UInt8 × List UInt8)) (bytes : List UInt8) :
    Except ReadFailure (List UInt8 × List UInt8) :=
  if present then part bytes else .ok ([], bytes)

/-- Splits off extra data behind its size. -/
def splitExtra (bytes : List UInt8) : Except ReadFailure (List UInt8 × List UInt8) := do
  let (size, rest) ← splitBytes 2 bytes
  let (extra, rest) ← splitBytes (littleEndian size) rest
  pure (size ++ extra, rest)

/-- Splits off a checksum of a header, which must fit. -/
def splitHeaderCheck (header bytes : List UInt8) :
    Except ReadFailure (List UInt8 × List UInt8) := do
  let (check, rest) ← splitBytes 2 bytes
  if littleEndian check = (checksum header).toNat % 2 ^ (16 : Nat) then pure (check, rest)
  else .error .badChecksum

/-- The flags of a header whose first ten bytes are given. -/
def headerFlags : List UInt8 → Except ReadFailure UInt8
  | 0x1F :: 0x8B :: 8 :: flags :: _ => if flags &&& 0xE0 = 0 then .ok flags else .error .badHeader
  | _ => .error .badHeader

/-- The bytes behind the header. -/
def behindHeader (bytes : List UInt8) : Except ReadFailure (List UInt8) := do
  let (start, rest) ← splitBytes 10 bytes
  let flags ← headerFlags start
  let has (flag : UInt8) : Bool := flags &&& flag ≠ 0
  let (extra, rest) ← optionalPart (has 4) splitExtra rest
  let (name, rest) ← optionalPart (has 8) splitName rest
  let (comment, rest) ← optionalPart (has 16) splitName rest
  let (_, rest) ← optionalPart (has 2) (splitHeaderCheck (start ++ extra ++ name ++ comment)) rest
  pure rest

/-! ## Data and trailer -/

/-- The size of the window that written bytes are kept in. -/
def windowSize : Nat := 32768

/-- How a stream of some bytes ends, with its trailer at the front of the bits that are left. -/
def withTrailer (bytes : List UInt8) (rest : Bits) : Stream :=
  let (trailer, _) := takeBytes 8 (rest.drop (rest.length % 8))
  if trailer.length < 8 then .broken bytes .cutOff
  else if littleEndian (trailer.take 4) = (checksum bytes).toNat
      ∧ littleEndian (trailer.drop 4) = bytes.length % 2 ^ (32 : Nat) then
    .ofBytes bytes
  else .broken bytes .badChecksum

/-- The stream of some compressed data and its trailer. -/
def dataStream (data : List UInt8) : Stream :=
  let inflated := inflate data
  match inflated.rest with
  | .ok rest => withTrailer inflated.bytes rest
  | .error .cutOff => .broken inflated.bytes .badData
  | .error .broken =>
    .broken (inflated.bytes.take (inflated.bytes.length / windowSize * windowSize)) .badData

/-- The stream that a compressed file holds. -/
def decompress (bytes : List UInt8) : Stream :=
  match behindHeader bytes with
  | .error failure => .broken [] failure
  | .ok data => dataStream data

end Gazetteer.Gzip
