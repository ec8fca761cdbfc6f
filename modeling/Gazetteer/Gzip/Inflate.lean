/-
# Gazetteer.Gzip.Inflate -- undoing deflate compression

Compressed data is a row of blocks, of which the last is marked. A block holds bytes as they are, or
symbols in a fixed code or in one that the block describes. A symbol is a byte, the end of the
block, or a length; a length is followed by a distance, and together they repeat what was written
that far back. What is repeated from before the start is zero.

What was written before the data turned out to be cut off or broken is kept.
-/
import Gazetteer.Gzip.Huffman

namespace Gazetteer.Gzip

/-! ## Lengths and distances -/

/-- The number of extra bits of each length symbol. -/
def lengthExtra : List Nat :=
  [0, 0, 0, 0, 0, 0, 0, 0, 1, 1, 1, 1, 2, 2, 2, 2, 3, 3, 3, 3, 4, 4, 4, 4, 5, 5, 5, 5, 0]

/-- The least length of each length symbol. -/
def lengthBase : List Nat :=
  [3, 4, 5, 6, 7, 8, 9, 10, 11, 13, 15, 17, 19, 23, 27, 31, 35, 43, 51, 59, 67, 83, 99, 115, 131,
    163, 195, 227, 258]

/-- The number of extra bits of each distance symbol. -/
def distanceExtra : List Nat :=
  [0, 0, 0, 0, 1, 1, 2, 2, 3, 3, 4, 4, 5, 5, 6, 6, 7, 7, 8, 8, 9, 9, 10, 10, 11, 11, 12, 12, 13, 13]

/-- The least distance of each distance symbol. -/
def distanceBase : List Nat :=
  [1, 2, 3, 4, 5, 7, 9, 13, 17, 25, 33, 49, 65, 97, 129, 193, 257, 385, 513, 769, 1025, 1537, 2049,
    3073, 4097, 6145, 8193, 12289, 16385, 24577]

/-- The value of a symbol with extra bits; a symbol without a base makes no sense. -/
def extended (base extra : List Nat) (i : Nat) : Taker Nat :=
  match base[i]?, extra[i]? with
  | some least, some size => (least + ·) <$> number size
  | _, _ => stop .broken

/-! ## Codes -/

/-- The codes for literals and lengths, and for distances. -/
structure Codes where
  literals : Tree
  distances : Tree

/-- The lengths of the fixed code for literals and lengths. -/
def fixedLiteralLengths : List Nat :=
  List.replicate 144 8 ++ List.replicate 112 9 ++ List.replicate 24 7 ++ List.replicate 8 8

/-- The lengths of the fixed code for distances. -/
def fixedDistanceLengths : List Nat := List.replicate 32 5

/-- The fixed codes. -/
def fixedCodes : Codes := ⟨.ofLengths fixedLiteralLengths, .ofLengths fixedDistanceLengths⟩

/-- The order in which the lengths of the code for lengths are written. -/
def lengthOrder : List Nat := [16, 17, 18, 0, 8, 7, 9, 6, 10, 5, 11, 4, 12, 3, 13, 2, 14, 1, 15]

/-- The lengths of the code for lengths, by symbol. -/
def reorder (written : List Nat) : List Nat :=
  (List.range 19).map fun symbol => (written[lengthOrder.idxOf symbol]?).getD 0

/-- What a symbol of the code for lengths adds: one length, or several equal ones. -/
def addedLengths (last : Option Nat) (symbol : Nat) : Taker (List Nat) :=
  if symbol < 16 then pure [symbol]
  else if symbol = 16 then
    match last with
    | none => stop .broken
    | some l => (fun n => List.replicate (3 + n) l) <$> number 2
  else if symbol = 17 then (fun n => List.replicate (3 + n) 0) <$> number 3
  else (fun n => List.replicate (11 + n) 0) <$> number 7

/-- Takes lengths until there are so many; those so far are in reverse. The bound counts symbols,
each of which adds a length. -/
def codeLengths (t : Tree) (size : Nat) : Nat → List Nat → Taker (List Nat)
  | 0, _ => stop .broken
  | bound + 1, soFar =>
    if soFar.length = size then pure soFar.reverse
    else if size < soFar.length then stop .broken
    else do
      let symbol ← t.symbol
      let added ← addedLengths soFar.head? symbol
      codeLengths t size bound (added ++ soFar)

/-- Takes the description of the codes of a block. -/
def describedCodes : Taker Codes := do
  let literals := (← number 5) + 257
  let distances := (← number 5) + 1
  let written ← numbers 3 ((← number 4) + 4)
  if 286 < literals || 30 < distances then stop .broken
  let t ← treeOf (reorder written)
  let size := literals + distances
  let lengths ← codeLengths t size (size + 1) []
  let distances ← treeOf (lengths.drop literals)
  let literals ← treeOf (lengths.take literals)
  pure ⟨literals, distances⟩

/-! ## Symbols -/

/-- A step of a block. -/
inductive Token where
  | byte (b : UInt8)
  | copy (length distance : Nat)
  | blockEnd
  deriving DecidableEq, Repr

/-- Takes a step. -/
def token (codes : Codes) : Taker Token := do
  let s ← codes.literals.symbol
  if s < 256 then pure (.byte (.ofNat s))
  else if s = 256 then pure .blockEnd
  else do
    let length ← extended lengthBase lengthExtra (s - 257)
    let distance ← extended distanceBase distanceExtra (← codes.distances.symbol)
    pure (.copy length distance)

/-- Repeats what was written some way back. Written bytes are in reverse. -/
def repeatBytes (distance : Nat) : Nat → List UInt8 → List UInt8
  | 0, written => written
  | length + 1, written =>
    repeatBytes distance length ((written[distance - 1]?).getD 0 :: written)

/-! ## Blocks -/

/-- What was written, in reverse, and what is left or why it stopped. -/
structure Written where
  reversed : List UInt8
  rest : Except Stop Bits

/-- Writes the symbols of a block. The bound counts them, each of which takes a bit. -/
def writeTokens (codes : Codes) : Nat → List UInt8 → Bits → Written
  | 0, written, _ => ⟨written, .error .cutOff⟩
  | bound + 1, written, bits =>
    match token codes bits with
    | .error why => ⟨written, .error why⟩
    | .ok (.byte b, rest) => writeTokens codes bound (b :: written) rest
    | .ok (.copy length distance, rest) =>
      writeTokens codes bound (repeatBytes distance length written) rest
    | .ok (.blockEnd, rest) => ⟨written, .ok rest⟩

/-- Takes the size of a block of plain bytes, which is written twice, once inverted. -/
def plainSize : Taker Nat := do
  alignToByte
  let size ← number 16
  let inverted ← number 16
  if size + inverted = 0xFFFF then pure size else stop .broken

/-- Writes a block of plain bytes. -/
def writePlain (written : List UInt8) (bits : Bits) : Written :=
  match plainSize bits with
  | .error why => ⟨written, .error why⟩
  | .ok (size, rest) =>
    let (bytes, rest) := takeBytes size rest
    ⟨bytes.reverse ++ written, if bytes.length = size then .ok rest else .error .cutOff⟩

/-- Writes a block with codes. -/
def writeCoded (codes : Taker Codes) (written : List UInt8) (bits : Bits) : Written :=
  match codes bits with
  | .error why => ⟨written, .error why⟩
  | .ok (codes, rest) => writeTokens codes (rest.length + 1) written rest

/-- Writes a block of some kind. -/
def writeBlock (kind : Nat) (written : List UInt8) (bits : Bits) : Written :=
  if kind = 0 then writePlain written bits
  else if kind = 1 then writeCoded (pure fixedCodes) written bits
  else if kind = 2 then writeCoded describedCodes written bits
  else ⟨written, .error .broken⟩

/-- Takes the front of a block: whether it is the last, and its kind. -/
def blockFront : Taker (Bool × Nat) := do
  let last ← number 1
  let kind ← number 2
  pure (last = 1, kind)

/-- Writes all blocks. The bound counts them, each of which takes a bit. -/
def writeBlocks : Nat → List UInt8 → Bits → Written
  | 0, written, _ => ⟨written, .error .cutOff⟩
  | bound + 1, written, bits =>
    match blockFront bits with
    | .error why => ⟨written, .error why⟩
    | .ok ((last, kind), rest) =>
      let block := writeBlock kind written rest
      match last, block.rest with
      | false, .ok rest => writeBlocks bound block.reversed rest
      | _, _ => block

/-- What compressed data comes to. -/
structure Inflated where
  bytes : List UInt8
  /-- What is left behind the last block, or why it was not reached. -/
  rest : Except Stop Bits

/-- Undoes the compression of some bytes. -/
def inflate (bytes : List UInt8) : Inflated :=
  let bits := bitsOf bytes
  let all := writeBlocks (bits.length + 1) [] bits
  ⟨all.reversed.reverse, all.rest⟩

end Gazetteer.Gzip
