/-
# Gazetteer.Proofs.Gzip.Member -- reading back a compressed file

A compressed file begins with a header, of which most parts may be there or not, and ends with the
checksum and the length of what it holds. Every header can stand in front of every row of blocks.
If the blocks repeat nothing, reading the file gives the bytes of the blocks and no failure,
whatever follows behind it.
-/
import Gazetteer.Gzip.Member
import Gazetteer.Proofs.Gzip.Blocks

namespace Gazetteer.Gzip

open scoped Powers

open Storage (ReadFailure)

/-! ## Headers -/

/-- A header, with the parts that are there. -/
structure Header where
  isText : Bool
  time : UInt32
  compression : UInt8
  system : UInt8
  extra : Option (List UInt8)
  name : Option (List UInt8)
  comment : Option (List UInt8)
  isChecked : Bool
  extra_size : ∀ bytes ∈ extra, bytes.length < 2 ^ (16 : Nat)
  zero_notMem_name : ∀ bytes ∈ name, 0 ∉ bytes
  zero_notMem_comment : ∀ bytes ∈ comment, 0 ∉ bytes

/-- A flag, if it is set. -/
def flag (value : UInt8) (isSet : Bool) : UInt8 := if isSet then value else 0

/-- The byte that some flags make up. -/
def flagByte (isText isChecked hasExtra hasName hasComment : Bool) : UInt8 :=
  flag 1 isText ||| flag 2 isChecked ||| flag 4 hasExtra ||| flag 8 hasName ||| flag 16 hasComment

namespace Header

/-- The flags of a header tell what is there. -/
def flags (h : Header) : UInt8 :=
  flagByte h.isText h.isChecked h.extra.isSome h.name.isSome h.comment.isSome

/-- The first ten bytes of a header. -/
def start (h : Header) : List UInt8 :=
  [0x1F, 0x8B, 8, h.flags] ++ lowBytes 4 h.time.toNat ++ [h.compression, h.system]

/-- Extra data behind its size. -/
def sized (extra : Option (List UInt8)) : List UInt8 :=
  (extra.map fun bytes => lowBytes 2 bytes.length ++ bytes).getD []

/-- A text that ends at a zero. -/
def zeroEnded (text : Option (List UInt8)) : List UInt8 := (text.map (· ++ [0])).getD []

/-- What the checksum of a header is about. -/
def checkedPart (h : Header) : List UInt8 :=
  h.start ++ sized h.extra ++ zeroEnded h.name ++ zeroEnded h.comment

/-- A header as bytes. -/
def written (h : Header) : List UInt8 :=
  h.checkedPart ++ if h.isChecked then lowBytes 2 (checksum h.checkedPart).toNat else []

end Header

theorem splitBytes_append (front rest : List UInt8) :
    splitBytes front.length (front ++ rest) = .ok (front, rest) := by
  rw [splitBytes, if_neg (by simp), List.splitAt_eq, List.take_left, List.drop_left]

theorem splitName_append {name : List UInt8} (h : 0 ∉ name) (rest : List UInt8) :
    splitName (name ++ 0 :: rest) = .ok (name ++ [0], rest) := by
  induction name with
  | nil => rfl
  | cons b name ih =>
    rw [List.mem_cons, not_or] at h
    rw [List.cons_append, splitName, if_neg (Ne.symm h.1), ih h.2]
    rfl

theorem flagByte_bits : ∀ isText isChecked hasExtra hasName hasComment : Bool,
    let flags := flagByte isText isChecked hasExtra hasName hasComment
    flags &&& 0xE0 = 0 ∧ decide (flags &&& 4 ≠ 0) = hasExtra ∧ decide (flags &&& 8 ≠ 0) = hasName
      ∧ decide (flags &&& 16 ≠ 0) = hasComment ∧ decide (flags &&& 2 ≠ 0) = isChecked := by
  decide

theorem splitExtra_append {extra : List UInt8} (h : extra.length < 2 ^ (16 : Nat))
    (rest : List UInt8) :
    splitExtra (lowBytes 2 extra.length ++ extra ++ rest)
      = .ok (lowBytes 2 extra.length ++ extra, rest) := by
  have hsize := splitBytes_append (lowBytes 2 extra.length) (extra ++ rest)
  have hextra := splitBytes_append extra rest
  have hlength : littleEndian (lowBytes 2 extra.length) = extra.length := by
    rw [littleEndian_lowBytes, Nat.mod_eq_of_lt h]
  rw [length_lowBytes] at hsize
  rw [List.append_assoc]
  simp only [splitExtra, bind, Except.bind, hsize, hlength, hextra]
  rfl

theorem splitHeaderCheck_append (header rest : List UInt8) :
    splitHeaderCheck header (lowBytes 2 (checksum header).toNat ++ rest)
      = .ok (lowBytes 2 (checksum header).toNat, rest) := by
  have hcheck := splitBytes_append (lowBytes 2 (checksum header).toNat) rest
  have hfit : littleEndian (lowBytes 2 (checksum header).toNat)
      = (checksum header).toNat % 2 ^ (16 : Nat) := littleEndian_lowBytes 2 _
  rw [length_lowBytes] at hcheck
  simp only [splitHeaderCheck, bind, Except.bind, hcheck, if_pos hfit]
  rfl

namespace Header

theorem length_start (h : Header) : h.start.length = 10 := by simp [start]

theorem headerFlags_start (h : Header) : headerFlags h.start = .ok h.flags := by
  have hclear : h.flags &&& 0xE0 = 0 := (flagByte_bits _ _ _ _ _).1
  show (if h.flags &&& 0xE0 = 0 then Except.ok h.flags else .error ReadFailure.badHeader) = _
  rw [if_pos hclear]

theorem optionalPart_sized {extra : Option (List UInt8)}
    (h : ∀ bytes ∈ extra, bytes.length < 2 ^ (16 : Nat)) (rest : List UInt8) :
    optionalPart extra.isSome splitExtra (sized extra ++ rest) = .ok (sized extra, rest) := by
  cases extra with
  | none => rfl
  | some bytes => exact splitExtra_append (h bytes rfl) rest

theorem optionalPart_zeroEnded {text : Option (List UInt8)} (h : ∀ bytes ∈ text, 0 ∉ bytes)
    (rest : List UInt8) :
    optionalPart text.isSome splitName (zeroEnded text ++ rest) = .ok (zeroEnded text, rest) := by
  cases text with
  | none => rfl
  | some bytes =>
    have hname := splitName_append (h bytes rfl) rest
    rwa [← List.singleton_append, ← List.append_assoc] at hname

theorem optionalPart_check (h : Header) (header rest : List UInt8) :
    optionalPart h.isChecked (splitHeaderCheck header)
        ((if h.isChecked then lowBytes 2 (checksum header).toNat else []) ++ rest)
      = .ok (if h.isChecked then lowBytes 2 (checksum header).toNat else [], rest) := by
  cases h.isChecked with
  | false => rfl
  | true => exact splitHeaderCheck_append header rest

/-- Whatever its parts are, a header is passed over. -/
theorem behindHeader_written (h : Header) (data : List UInt8) :
    behindHeader (h.written ++ data) = .ok data := by
  obtain ⟨-, hextra, hname, hcomment, hcheck⟩ :=
    flagByte_bits h.isText h.isChecked h.extra.isSome h.name.isSome h.comment.isSome
  rw [← flags] at hextra hname hcomment hcheck
  have hstart : ∀ rest, splitBytes 10 (h.start ++ rest) = .ok (h.start, rest) := by
    intro rest
    rw [← h.length_start]
    exact splitBytes_append h.start rest
  rw [written, checkedPart]
  simp only [behindHeader, bind, Except.bind, List.append_assoc, hstart, headerFlags_start, hextra,
    hname, hcomment, hcheck, optionalPart_sized h.extra_size,
    optionalPart_zeroEnded h.zero_notMem_name, optionalPart_zeroEnded h.zero_notMem_comment,
    optionalPart_check]
  rfl

end Header

/-! ## Members -/

/-- A compressed file whose data repeats nothing. -/
structure Member where
  header : Header
  /-- The blocks before the last. -/
  earlier : List Block
  last : Block
  /-- Bits of it fill up the last byte of the data. -/
  filler : UInt8

namespace Member

/-- The bytes that a compressed file holds. -/
def content (m : Member) : List UInt8 := (m.earlier ++ [m.last]).flatMap Block.bytes

/-- The bits of the blocks. -/
def blocks (m : Member) : Bits := blockBits 0 m.earlier m.last

/-- The bits that fill up the last byte of the data. -/
def fill (m : Member) : Bits := fillUp m.filler m.blocks.length

/-- The bytes of the data. -/
def data (m : Member) : List UInt8 := packed ((m.blocks ++ m.fill).length / 8) (m.blocks ++ m.fill)

/-- The checksum and the length of what a compressed file holds. -/
def trailer (m : Member) : List UInt8 :=
  lowBytes 4 (checksum m.content).toNat ++ lowBytes 4 m.content.length

/-- A compressed file as bytes. -/
def written (m : Member) : List UInt8 := m.header.written ++ m.data ++ m.trailer

theorem length_blocks_fill (m : Member) : (m.blocks.length + m.fill.length) % 8 = 0 := by
  rw [fill, length_fillUp]
  omega

theorem bitsOf_data (m : Member) : bitsOf m.data = m.blocks ++ m.fill := by
  have hwhole := m.length_blocks_fill
  apply bitsOf_packed
  rw [List.length_append]
  omega

theorem inflate_data (m : Member) (rest : List UInt8) :
    inflate (m.data ++ rest) = ⟨m.content, .ok (m.fill ++ bitsOf rest)⟩ := by
  have hwhole : (0 + m.blocks.length + (m.fill ++ bitsOf rest).length) % 8 = 0 := by
    have hfill := m.length_blocks_fill
    rw [List.length_append, length_bitsOf]
    omega
  have hbound : m.blocks.length < (m.blocks ++ (m.fill ++ bitsOf rest)).length + 1 := by
    rw [List.length_append]
    omega
  have hblocks := writeBlocks_blockBits m.earlier m.last 0 [] _ _ hwhole hbound
  rw [← blocks, ← content, List.append_nil] at hblocks
  rw [inflate, bitsOf_append, bitsOf_data, List.append_assoc]
  simp only [hblocks, List.reverse_reverse]

theorem withTrailer_trailer (m : Member) (more : List UInt8) :
    withTrailer m.content (m.fill ++ bitsOf (m.trailer ++ more)) = .ofBytes m.content := by
  have hwhole : (bitsOf (m.trailer ++ more)).length % 8 = 0 := by
    rw [length_bitsOf]
    omega
  have hlength : m.trailer.length = 8 := by simp [trailer]
  have htake := takeBytes_bitsOf m.trailer (bitsOf more)
  have hcheck : littleEndian (m.trailer.take 4) = (checksum m.content).toNat := by
    rw [trailer, List.take_left' (length_lowBytes 4 _), littleEndian_lowBytes]
    exact Nat.mod_eq_of_lt (checksum m.content).toNat_lt
  have hsize : littleEndian (m.trailer.drop 4) = m.content.length % 2 ^ (32 : Nat) := by
    rw [trailer, List.drop_left' (length_lowBytes 4 _), littleEndian_lowBytes]
  rw [hlength, ← bitsOf_append] at htake
  simp only [withTrailer, fill, drop_fillUp hwhole, htake, hlength, hcheck, hsize]
  rfl

/-- The checksum of the digits from one to nine is the one by which its kind is known. -/
example : checksum [0x31, 0x32, 0x33, 0x34, 0x35, 0x36, 0x37, 0x38, 0x39] = 0xCBF43926 := by
  decide +kernel

/-- **Compressed files are read back.** Reading a compressed file gives what it holds, without a
failure, whatever follows it. -/
theorem decompress_written (m : Member) (more : List UInt8) :
    decompress (m.written ++ more) = .ofBytes m.content := by
  rw [written, List.append_assoc, List.append_assoc, decompress, Header.behindHeader_written]
  simp only [dataStream, inflate_data, withTrailer_trailer]

end Member

end Gazetteer.Gzip
