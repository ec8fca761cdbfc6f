/-
# Gazetteer.Storage.Stream -- bytes and how they end

Reading a file gives bytes until they end: the file is complete, or reading failed. Bytes that were
read before a failure count; what reads them may be done, or find fault with them, before it comes
to their end.
-/
import Gazetteer.Text.Basic

namespace Gazetteer.Storage

/-- Why the bytes of a file broke off. -/
inductive ReadFailure where
  /-- A directory can be opened but not read. -/
  | directory
  /-- A compressed file does not begin like one. -/
  | badHeader
  /-- The header or trailer of a compressed file is cut off. -/
  | cutOff
  /-- The compressed data is broken or cut off. -/
  | badData
  /-- The checksum or the length does not fit the data. -/
  | badChecksum
  deriving DecidableEq, Repr

/-- What is told about a failure to read. -/
def ReadFailure.message : ReadFailure → Text
  | .directory => "Is a directory (os error 21)"
  | .badHeader => "invalid gzip header"
  | .cutOff => "unexpected end of file"
  | .badData => "corrupt deflate stream"
  | .badChecksum => "corrupt gzip stream does not have a matching checksum"

/-- How the bytes of a stream end. -/
inductive Ending where
  | complete
  | broken (failure : ReadFailure)
  deriving DecidableEq, Repr

/-- Bytes and how they end. -/
structure Stream where
  bytes : List UInt8
  ending : Ending
  deriving DecidableEq, Repr

/-- A stream that is there in full. -/
def Stream.ofBytes (bytes : List UInt8) : Stream := ⟨bytes, .complete⟩

/-- A stream that breaks off. -/
def Stream.broken (bytes : List UInt8) (failure : ReadFailure) : Stream := ⟨bytes, .broken failure⟩

end Gazetteer.Storage
