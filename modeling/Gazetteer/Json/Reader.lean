/-
# Gazetteer.Json.Reader -- reading JSON from a stream of bytes

A reader takes bytes from the front of a stream and gives a value or the fault it met first. Faults
are of four kinds: the text is malformed; it ended too soon; reading failed; or the text is well
formed so far but is not what is expected (`Mismatch`). Whatever needs a byte at the end of the
bytes meets the fault of that end.
-/
import Gazetteer.Decimal.Binary64
import Gazetteer.Storage.Stream

namespace Gazetteer.Json

open Storage (Ending ReadFailure)

/-! ## What was found and what was expected -/

/-- What stands where something else is expected. -/
inductive Found where
  | null
  | boolean (b : Bool)
  | integer (n : Int)
  | floating (x : Binary64)
  | text (t : Text)
  | sequence
  | map
  deriving DecidableEq, Repr

/-- What is expected. -/
inductive Expected where
  | text
  | boolean
  | sequence
  | count
  | record (title : Text)
  | label
  | unit
  deriving DecidableEq, Repr

/-- The text is well formed so far but is not what is expected. -/
inductive Mismatch where
  /-- A value of the wrong kind. -/
  | wrongKind (found : Found) (expected : Expected)
  /-- A value of the right kind that is out of range. -/
  | wrongValue (found : Found) (expected : Expected)
  /-- A list that ends before the field with this index, which has no default. -/
  | tooShort (index : Nat) (title : Text) (size : Nat)
  | unknownLabel (given : Text) (labels : List Text)
  | missingField (key : Text)
  | duplicateField (key : Text)
  deriving DecidableEq, Repr

/-- Why a text could not be read. -/
inductive Fault where
  | malformed
  | truncated
  | unreadable (failure : ReadFailure)
  | mismatch (m : Mismatch)
  deriving DecidableEq, Repr

/-- The fault of reading on at the end of the bytes. -/
def Fault.atEnd : Ending → Fault
  | .complete => .truncated
  | .broken failure => .unreadable failure

/-! ## Readers -/

/-- Takes bytes from the front of a stream. -/
abbrev Reader := ReaderT Ending (StateT (List UInt8) (Except Fault))

namespace Reader

variable {α : Type}

/-- Stops with a fault. -/
def fail (f : Fault) : Reader α := fun _ _ => .error f

/-- Stops with a mismatch. -/
def refuse (m : Mismatch) : Reader α := fail (.mismatch m)

/-- A byte as the ASCII character it is; the others are no sign of JSON. -/
def sign (b : UInt8) : Char := Char.ofNat b.toNat

/-- The first byte, which stays. -/
def peek : Reader Char := fun ending bytes =>
  match bytes with
  | [] => .error (.atEnd ending)
  | b :: _ => .ok (sign b, bytes)

/-- The first byte, which stays, or none at the end of complete bytes. -/
def peek? : Reader (Option Char) := fun ending bytes =>
  match bytes, ending with
  | b :: _, _ => .ok (some (sign b), bytes)
  | [], .complete => .ok (none, [])
  | [], .broken failure => .error (.unreadable failure)

/-- Takes the first byte. -/
def next : Reader Char := fun ending bytes =>
  match bytes with
  | [] => .error (.atEnd ending)
  | b :: rest => .ok (sign b, rest)

/-- Passes over the first byte. -/
def advance : Reader Unit := fun _ bytes => .ok ((), bytes.tail)

/-- The white space between the parts of a JSON text. -/
def isSpace (b : UInt8) : Bool := b == 0x20 || b == 0x0A || b == 0x09 || b == 0x0D

/-- Passes over white space. -/
def skipSpace : Reader Unit := fun _ bytes => .ok ((), bytes.dropWhile isSpace)

/-- The first byte behind white space, which stays. -/
def token : Reader Char := do
  skipSpace
  peek

/-- The characters that must follow. -/
def word : Text → Reader Unit
  | [] => pure ()
  | c :: rest => do
    if (← next) = c then word rest else fail .malformed

/-- The colon between a key and its value. -/
def colon : Reader Unit := do
  if (← token) = ':' then advance else fail .malformed

/-- Nothing but white space may follow. -/
def finish : Reader Unit := do
  skipSpace
  match ← peek? with
  | none => pure ()
  | some _ => fail .malformed

end Reader

end Gazetteer.Json
