/-
# Gazetteer.Gzip.Huffman -- canonical prefix codes

A code is given by the length of the codeword of each symbol, zero for a symbol without one. The
codewords of one length are consecutive numbers in the order of the symbols, and longer ones follow
shorter ones. A code must fill the space of codewords exactly, unless it has at most one symbol.
-/
import Gazetteer.Gzip.Bits

namespace Gazetteer.Gzip

open scoped Powers

/-! ## Codewords -/

/-- The greatest length of a codeword. -/
def maxLength : Nat := 15

/-- How many symbols have a codeword of some length. -/
def countOfLength (lengths : List Nat) (l : Nat) : Nat := if l = 0 then 0 else lengths.count l

/-- The first codeword of some length, as a number. -/
def firstOfLength (lengths : List Nat) : Nat → Nat
  | 0 => 0
  | l + 1 => 2 * (firstOfLength lengths l + countOfLength lengths l)

/-- The bits of a codeword, the highest first. -/
def codeword (length value : Nat) : Bits := ((List.range length).map value.testBit).reverse

/-- The codewords of the symbols after some others, each with its symbol. -/
def codewordsFrom (lengths : List Nat) : List Nat → List Nat → Nat → List (Bits × Nat)
  | _, [], _ => []
  | earlier, l :: rest, symbol =>
    let others := codewordsFrom lengths (l :: earlier) rest (symbol + 1)
    if l = 0 then others
    else (codeword l (firstOfLength lengths l + earlier.count l), symbol) :: others

/-- The codewords of a code, each with its symbol. -/
def codewords (lengths : List Nat) : List (Bits × Nat) := codewordsFrom lengths [] lengths 0

/-- The share of all codewords of the greatest length that a code takes up. -/
def weight (lengths : List Nat) : Nat :=
  (lengths.map (fun l => if l = 0 then 0 else 2 ^ (maxLength - l))).foldl (· + ·) 0

/-- Whether some lengths make a code. -/
def isCode (lengths : List Nat) : Bool :=
  weight lengths = 2 ^ maxLength || (lengths.filter (· ≠ 0)).length ≤ 1

/-! ## Trees -/

/-- A code as a tree: a bit chooses the branch. -/
inductive Tree where
  | empty
  | leaf (symbol : Nat)
  | node (zero one : Tree)
  deriving DecidableEq, Repr

namespace Tree

/-- The branches of a tree. -/
def branches : Tree → Tree × Tree
  | .node zero one => (zero, one)
  | _ => (.empty, .empty)

/-- Adds a codeword. -/
def insert (symbol : Nat) : Bits → Tree → Tree
  | [], _ => .leaf symbol
  | false :: rest, t => .node (insert symbol rest t.branches.1) t.branches.2
  | true :: rest, t => .node t.branches.1 (insert symbol rest t.branches.2)

/-- The tree of a code. -/
def ofLengths (lengths : List Nat) : Tree :=
  (codewords lengths).foldl (fun t (word, symbol) => t.insert symbol word) .empty

/-- Takes the codeword at the front and gives its symbol. -/
def symbol : Tree → Taker Nat
  | .empty, _ => .error .broken
  | .leaf s, bits => .ok (s, bits)
  | .node _ _, [] => .error .cutOff
  | .node zero _, false :: rest => zero.symbol rest
  | .node _ one, true :: rest => one.symbol rest

end Tree

/-- The tree of some lengths that must make a code. -/
def treeOf (lengths : List Nat) : Taker Tree :=
  if isCode lengths then pure (.ofLengths lengths) else stop .broken

end Gazetteer.Gzip
