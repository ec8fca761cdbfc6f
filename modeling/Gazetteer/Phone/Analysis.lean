/-
# Gazetteer.Phone.Analysis -- what a phone number is so far

A number that is being typed is empty, incomplete, complete or invalid. The count of its digits
against the slots of the mask decides, and at full length the stored pattern has the last word.
Without a mask or a calling code nothing can be said, and every input is invalid.
-/
import Gazetteer.Phone.Mask
import Gazetteer.Pattern.Stored

namespace Gazetteer.Phone

/-- What a country lays down about phone numbers. -/
structure Conventions where
  mask : Option Text := none
  pattern : Option Text := none
  callingCode : Option Text := none

/-- What a number is so far. -/
inductive Status where
  /-- There is no digit yet. -/
  | empty
  /-- There are fewer digits than slots. -/
  | incomplete
  /-- There are as many digits as slots, and the pattern accepts the input. -/
  | complete
  /-- There are too many digits, or the pattern rejects the input, or there are no conventions. -/
  | invalid
  deriving DecidableEq, Repr

namespace Status

/-- The statuses in their order of mention. -/
def all : List Status := [.empty, .incomplete, .complete, .invalid]

/-- The name of a status. -/
def name : Status → Text
  | .empty => "empty"
  | .incomplete => "partial"
  | .complete => "complete"
  | .invalid => "invalid"

end Status

/-- A phone input and all that is shown of it. -/
structure Number where
  status : Status
  formatted : Text
  /-- The input as it was typed. -/
  typed : Text
  /-- Calling code and formatted number of an incomplete or complete input; else the input. -/
  international : Text
  deriving DecidableEq, Repr

/-- Everything shown is the input. -/
def Number.unchanged (status : Status) (input : Text) : Number := ⟨status, input, input, input⟩

/-- The formatted number is shown, alone and behind the calling code. -/
def Number.shown (status : Status) (input formatted callingCode : Text) : Number :=
  ⟨status, formatted, input, callingCode ++ ' ' :: formatted⟩

/-- Whether a number is complete. -/
def Number.isComplete (n : Number) : Bool := n.status = .complete

/-- Whether a stored pattern accepts the trimmed input. -/
def validate [Pattern.SizeLimit] (input : Text) (pattern : Option Text) : Bool :=
  Pattern.accepts pattern input

/-- Formats and classifies an input. -/
def analyze [Pattern.SizeLimit] (input : Text) (c : Conventions) : Number :=
  match c.mask.bind Mask.ofText?, Text.nonBlank? c.callingCode with
  | some mask, some code =>
    let digits := Text.digits input
    if digits.isEmpty then .unchanged .empty input
    else if digits.length < mask.slots then .shown .incomplete input (mask.fill digits) code
    else if digits.length = mask.slots ∧ validate input c.pattern then
      .shown .complete input (mask.fill digits) code
    else .unchanged .invalid input
  | _, _ => .unchanged .invalid input

end Gazetteer.Phone
