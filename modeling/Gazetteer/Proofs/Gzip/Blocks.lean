/-
# Gazetteer.Proofs.Gzip.Blocks -- undoing blocks that repeat nothing

The simplest compressed data is a row of blocks that hold bytes as they are, or each byte by its
codeword in the fixed code. A block of the first kind begins its bytes at a whole byte, wherever the
block before it ended; so what a block looks like depends on how many bits stand before it. Whatever
the mix of blocks, and whatever bits fill up the bytes, undoing the compression writes the bytes of
the blocks, one block behind the other.
-/
import Gazetteer.Gzip.Inflate
import Gazetteer.Proofs.Gzip.Bits

namespace Gazetteer.Gzip

open scoped Powers

/-! ## Codewords -/

/-- The branch of a tree that some bits lead to. -/
def Tree.follow : Tree → Bits → Tree
  | t, [] => t
  | t, false :: word => t.branches.1.follow word
  | t, true :: word => t.branches.2.follow word

theorem Tree.follow_empty (word : Bits) : Tree.follow .empty word = .empty := by
  induction word with
  | nil => rfl
  | cons b word ih => cases b <;> exact ih

/-- A codeword that leads to a leaf is taken from the front. -/
theorem Tree.symbol_append {t : Tree} {word : Bits} {s : Nat} (h : t.follow word = .leaf s)
    (rest : Bits) : t.symbol (word ++ rest) = .ok (s, rest) := by
  induction word generalizing t with
  | nil =>
    rw [Tree.follow] at h
    rw [h]
    rfl
  | cons b word ih =>
    cases t with
    | node zero one => cases b <;> exact ih h
    -- Below any other tree there is no leaf.
    | empty | leaf _ =>
      have hempty : Tree.follow .empty word = .leaf s := by cases b <;> exact h
      rw [Tree.follow_empty] at hempty
      cases hempty

/-- The codeword of a byte in the fixed code. -/
def literalBits (b : UInt8) : Bits :=
  if b < 144 then codeword 8 (48 + b.toNat) else codeword 9 (400 + (b.toNat - 144))

/-- The codeword of the end of a block in the fixed code. -/
def endBits : Bits := codeword 7 0

theorem follow_literalBits (b : UInt8) :
    fixedCodes.literals.follow (literalBits b) = .leaf b.toNat := by
  have hall : ∀ n : Fin 256,
      fixedCodes.literals.follow (literalBits (.ofNat n)) = .leaf n.val := by decide +kernel
  have h := hall ⟨b.toNat, b.toNat_lt⟩
  rwa [UInt8.ofNat_toNat] at h

theorem follow_endBits : fixedCodes.literals.follow endBits = .leaf 256 := by decide +kernel

theorem length_le_literals (bytes : List UInt8) :
    bytes.length ≤ (bytes.flatMap literalBits).length := by
  have hpos : ∀ b : UInt8, 1 ≤ (literalBits b).length := by
    intro b
    rw [literalBits]
    split <;> simp [codeword]
  induction bytes with
  | nil => simp
  | cons b bytes ih =>
    have hb := hpos b
    rw [List.flatMap_cons, List.length_append, List.length_cons]
    omega

theorem token_literalBits (b : UInt8) (rest : Bits) :
    token fixedCodes (literalBits b ++ rest) = .ok (.byte b, rest) := by
  have hsymbol := Tree.symbol_append (follow_literalBits b) rest
  have hlt : b.toNat < 256 := b.toNat_lt
  simp only [token, bind, StateT.bind, Except.bind, hsymbol, if_pos hlt, UInt8.ofNat_toNat]
  rfl

theorem token_endBits (rest : Bits) :
    token fixedCodes (endBits ++ rest) = .ok (.blockEnd, rest) := by
  have hsymbol := Tree.symbol_append follow_endBits rest
  simp only [token, bind, StateT.bind, Except.bind, hsymbol]
  rfl

/-! ## Blocks -/

/-- A block that repeats nothing. -/
inductive Block where
  /-- Bytes as they are; bits of the filler fill up the byte before them. -/
  | plain (filler : UInt8) (bytes : List UInt8) (size_lt : bytes.length < 2 ^ (16 : Nat))
  /-- Bytes in the fixed code. -/
  | literals (bytes : List UInt8)

namespace Block

/-- The bytes that a block holds. -/
def bytes : Block → List UInt8
  | .plain _ bytes _ => bytes
  | .literals bytes => bytes

/-- The number that marks the kind of a block. -/
def kind : Block → Nat
  | .plain _ _ _ => 0
  | .literals _ => 1

/-- What a block holds behind its front, which ends behind so many bits. -/
def body (offset : Nat) : Block → Bits
  | .plain filler bytes _ =>
    fillUp filler offset ++ lowBits 16 bytes.length ++ lowBits 16 (0xFFFF - bytes.length)
      ++ bitsOf bytes
  | .literals bytes => bytes.flatMap literalBits ++ endBits

/-- A block behind so many bits, marked if it is the last. -/
def written (last : Bool) (offset : Nat) (b : Block) : Bits :=
  last :: lowBits 2 b.kind ++ b.body (offset + 3)

end Block

theorem Block.length_written (last : Bool) (offset : Nat) (b : Block) :
    (b.written last offset).length = 3 + (b.body (offset + 3)).length := by
  rw [Block.written, List.length_append, List.length_cons, length_lowBits]

/-- A row of blocks behind so many bits. -/
def blockBits (offset : Nat) : List Block → Block → Bits
  | [], last => last.written true offset
  | b :: earlier, last =>
    b.written false offset ++ blockBits (offset + (b.written false offset).length) earlier last

/-! ## One block -/

theorem writeTokens_literals (bytes written : List UInt8) (rest : Bits) {bound : Nat}
    (hbound : bytes.length < bound) :
    writeTokens fixedCodes bound written (bytes.flatMap literalBits ++ endBits ++ rest)
      = ⟨bytes.reverse ++ written, .ok rest⟩ := by
  induction bytes generalizing written bound with
  | nil =>
    obtain ⟨bound, rfl⟩ : ∃ n, bound = n + 1 := ⟨bound - 1, by omega⟩
    rw [List.flatMap_nil, List.nil_append, writeTokens, token_endBits]
    rfl
  | cons b bytes ih =>
    obtain ⟨bound, rfl⟩ : ∃ n, bound = n + 1 := ⟨bound - 1, by omega⟩
    rw [List.flatMap_cons, List.append_assoc, List.append_assoc, writeTokens, token_literalBits]
    simp only
    rw [← List.append_assoc, ih (b :: written) (by simpa using hbound), List.reverse_cons,
      List.append_assoc, List.singleton_append]

/-- The size of a block of plain bytes is taken from behind what fills up the byte. -/
theorem plainSize_fillUp (filler : UInt8) (offset : Nat) {size : Nat}
    (hsize : size < 2 ^ (16 : Nat)) {rest : Bits} (hrest : rest.length % 8 = 0) :
    plainSize (fillUp filler offset ++ (lowBits 16 size ++ (lowBits 16 (0xFFFF - size) ++ rest)))
      = .ok (size, rest) := by
  have hwhole : (lowBits 16 size ++ (lowBits 16 (0xFFFF - size) ++ rest)).length % 8 = 0 := by
    simp only [List.length_append, length_lowBits]
    omega
  have hinverted : 0xFFFF - size < 2 ^ (16 : Nat) := by omega
  have hfit : size + (0xFFFF - size) = 0xFFFF := by omega
  simp only [plainSize, bind, StateT.bind, Except.bind, alignToByte, drop_fillUp hwhole,
    number_lowBits hsize, number_lowBits hinverted, if_pos hfit]
  rfl

theorem writePlain_body (filler : UInt8) (bytes : List UInt8)
    (hsize : bytes.length < 2 ^ (16 : Nat)) (offset : Nat) (written : List UInt8) {rest : Bits}
    (hrest : rest.length % 8 = 0) :
    writePlain written ((Block.plain filler bytes hsize).body offset ++ rest)
      = ⟨bytes.reverse ++ written, .ok rest⟩ := by
  have hwhole : (bitsOf bytes ++ rest).length % 8 = 0 := by
    rw [List.length_append, length_bitsOf]
    omega
  have hplain := plainSize_fillUp filler offset hsize hwhole
  simp only [writePlain, Block.body, List.append_assoc, hplain, takeBytes_bitsOf, if_true]

/-- A step of undoing: a block is written behind its front, and what follows is left. -/
theorem writeBlock_body (b : Block) (offset : Nat) (written : List UInt8) {rest : Bits}
    (hwhole : (offset + (b.body offset).length + rest.length) % 8 = 0) :
    writeBlock b.kind written (b.body offset ++ rest) = ⟨b.bytes.reverse ++ written, .ok rest⟩ := by
  cases b with
  | plain filler bytes hsize =>
    have hfill := length_fillUp filler offset
    have hrest : rest.length % 8 = 0 := by
      simp only [Block.body, List.length_append, length_lowBits, length_bitsOf] at hwhole
      omega
    exact writePlain_body filler bytes hsize offset written hrest
  | literals bytes =>
    have hbound : bytes.length < ((Block.literals bytes).body offset ++ rest).length + 1 := by
      have hbits := length_le_literals bytes
      simp only [Block.body, List.length_append]
      omega
    have htokens := writeTokens_literals bytes written rest hbound
    have hcodes : (pure fixedCodes : Taker Codes) ((Block.literals bytes).body offset ++ rest)
        = .ok (fixedCodes, (Block.literals bytes).body offset ++ rest) := rfl
    rw [Block.kind, writeBlock, if_neg Nat.one_ne_zero, if_pos rfl, writeCoded, hcodes]
    exact htokens

/-! ## All blocks -/

theorem blockFront_written (last : Bool) (b : Block) (offset : Nat) (rest : Bits) :
    blockFront (b.written last offset ++ rest)
      = .ok ((last, b.kind), b.body (offset + 3) ++ rest) := by
  have hkind : b.kind < 2 ^ (2 : Nat) := by cases b <;> simp [Block.kind]
  have hlast : last.toNat < 2 ^ (1 : Nat) := last.toNat_lt
  have hbit : [last] = lowBits 1 last.toNat := by cases last <;> rfl
  have hmark : decide (last.toNat = 1) = last := by cases last <;> rfl
  rw [Block.written, ← List.singleton_append, hbit]
  simp only [List.append_assoc, blockFront, bind, StateT.bind, Except.bind, number_lowBits hlast,
    number_lowBits hkind, hmark]
  rfl

/-- A step of undoing all blocks: a block is written, and the rest goes on from there unless the
block is marked. -/
theorem writeBlocks_written (b : Block) (last : Bool) (offset : Nat) (written : List UInt8)
    (bound : Nat) {rest : Bits}
    (hwhole : (offset + (b.written last offset).length + rest.length) % 8 = 0) :
    writeBlocks (bound + 1) written (b.written last offset ++ rest)
      = if last then ⟨b.bytes.reverse ++ written, .ok rest⟩
        else writeBlocks bound (b.bytes.reverse ++ written) rest := by
  have hbody : (offset + 3 + (b.body (offset + 3)).length + rest.length) % 8 = 0 := by
    rw [Block.length_written] at hwhole
    omega
  rw [writeBlocks, blockFront_written]
  simp only [writeBlock_body b (offset + 3) written hbody]
  cases last <;> rfl

/-- **Blocks are undone.** A row of blocks in front of bits that end at a whole byte is written as
the bytes of the blocks, and those bits are left. -/
theorem writeBlocks_blockBits (earlier : List Block) (last : Block) (offset : Nat)
    (written : List UInt8) (rest : Bits) (bound : Nat)
    (hwhole : (offset + (blockBits offset earlier last).length + rest.length) % 8 = 0)
    (hbound : (blockBits offset earlier last).length < bound) :
    writeBlocks bound written (blockBits offset earlier last ++ rest)
      = ⟨((earlier ++ [last]).flatMap Block.bytes).reverse ++ written, .ok rest⟩ := by
  -- By induction on the blocks before the last; each of them starts where the one before it ended.
  induction earlier generalizing offset written bound with
  | nil =>
    obtain ⟨bound, rfl⟩ : ∃ n, bound = n + 1 := ⟨bound - 1, by omega⟩
    rw [blockBits, writeBlocks_written last true offset written bound hwhole, if_pos rfl,
      List.nil_append, List.flatMap_singleton]
  | cons b earlier ih =>
    obtain ⟨bound, rfl⟩ : ∃ n, bound = n + 1 := ⟨bound - 1, by omega⟩
    have hlength := Block.length_written false offset b
    rw [blockBits, List.length_append] at hwhole hbound
    rw [blockBits, List.append_assoc, writeBlocks_written b false offset written bound,
      if_neg Bool.false_ne_true, ih]
    · rw [List.cons_append, List.flatMap_cons, List.reverse_append, List.append_assoc]
    · omega
    · omega
    · rw [List.length_append]
      omega

end Gazetteer.Gzip
