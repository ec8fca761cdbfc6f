/-
# Gazetteer.Json.Skip -- passing over a value

A value that nobody asked for is passed over up to its end, however deep its lists and objects are
nested. The walk keeps the brackets that are open on a stack and is at one of three stages: before a
value, right behind an opening bracket, or behind a value. Texts and numbers in it must be well
formed but need not mean anything.
-/
import Gazetteer.Json.Number
import Gazetteer.Json.Quoted

namespace Gazetteer.Json

open Storage (Ending)

/-- An open bracket. -/
inductive Bracket where
  | array
  | object
  deriving DecidableEq, Repr

/-- The sign that closes a bracket. -/
def Bracket.close : Bracket → Char
  | .array => ']'
  | .object => '}'

/-- Where a walk over a value stands. -/
inductive Stage where
  | before
  | opened
  | behind
  deriving DecidableEq, Repr

/-- Passes over a text behind its opening quote. -/
def skipText : Reader Unit := fun ending bytes =>
  (skipQuoted ending 0 bytes).map fun rest => ((), rest)

/-- Passes over a value that is neither list nor object, whose first sign is given and stays. -/
def skipScalar (first : Char) : Reader Unit := do
  if first = 'n' then Reader.word "null"
  else if first = 't' then Reader.word "true"
  else if first = 'f' then Reader.word "false"
  else if first = '-' then
    Reader.advance
    skipNumber
  else if first.isDigit then skipNumber
  else if first = '"' then
    Reader.advance
    skipText
  else Reader.fail .malformed

/-- Passes over a key and its colon. -/
def skipKey : Reader Unit := do
  if (← Reader.token) = '"' then
    Reader.advance
    skipText
    Reader.colon
  else Reader.fail .malformed

/-- Passes over what stands between a bracket or comma and the next value. -/
def skipLead : Bracket → Reader Unit
  | .array => pure ()
  | .object => skipKey

/-- One walk over a value; the bound counts its steps. -/
def skipFrom (ending : Ending) :
    Nat → Stage → List Bracket → List UInt8 → Except Fault (Unit × List UInt8)
  | 0, _, _, _ => .error (.atEnd ending)
  | _ + 1, .behind, [], bytes => .ok ((), bytes)
  | bound + 1, .before, stack, bytes =>
    match Reader.token ending bytes with
    | .error f => .error f
    | .ok (first, bytes) =>
      if first = '[' then skipFrom ending bound .opened (.array :: stack) bytes.tail
      else if first = '{' then skipFrom ending bound .opened (.object :: stack) bytes.tail
      else
        match skipScalar first ending bytes with
        | .error f => .error f
        | .ok (_, rest) => skipFrom ending bound .behind stack rest
  | bound + 1, .opened, stack, bytes =>
    match stack, Reader.token ending bytes with
    | _, .error f => .error f
    | [], .ok _ => .error .malformed
    | bracket :: stack, .ok (first, bytes) =>
      if first = bracket.close then skipFrom ending bound .behind stack bytes.tail
      else
        match skipLead bracket ending bytes with
        | .error f => .error f
        | .ok (_, rest) => skipFrom ending bound .before (bracket :: stack) rest
  | bound + 1, .behind, bracket :: stack, bytes =>
    match Reader.token ending bytes with
    | .error f => .error f
    | .ok (first, bytes) =>
      if first = bracket.close then skipFrom ending bound .behind stack bytes.tail
      else if first = ',' then
        match skipLead bracket ending bytes.tail with
        | .error f => .error f
        | .ok (_, rest) => skipFrom ending bound .before (bracket :: stack) rest
      else .error .malformed

/-- Passes over a value. Every second step at least takes a byte. -/
def skipValue : Reader Unit := fun ending bytes =>
  skipFrom ending (2 * bytes.length + 2) .before [] bytes

end Gazetteer.Json
