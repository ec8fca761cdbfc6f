/-
# Gazetteer.Main -- the program

Reads the arguments, opens the file that they name, and prints the outcome. A call that fails exits
with code 1, and arguments that make no call with code 2.
-/
import Gazetteer.Command.Answer
import Gazetteer.Command.Arguments

namespace Gazetteer

open Storage (Opened OpenFailure)

/-- What a failure of the system comes to when a file is opened and read. -/
def opened (e : IO.Error) : Except OpenFailure Opened :=
  match e with
  | .permissionDenied .. => .error .denied
  | .inappropriateType _ 21 _ => .ok .directory
  | .inappropriateType .. => .error .notDirectory
  | .invalidArgument .. => .error .nameTooLong
  | _ => .error .missing

/-- Opens a file and reads it. -/
def openFile (path : String) : IO (Except OpenFailure Opened) := do
  if path.contains '\x00' then
    return .error .zeroCharacter
  try
    return .ok (.file (← IO.FS.readBinFile path).toList)
  catch e =>
    return opened e

/-- Carries out a call and prints what it leaves. -/
def carryOut (i : Command.Invocation) : IO UInt32 := do
  let file ← match i.input with
    | some path => openFile (String.ofList path)
    | none => pure (.error .missing)
  let outcome := i.run (fun _ => file)
  (← IO.getStdout).putStr (String.ofList outcome.output)
  (← IO.getStderr).putStr (String.ofList outcome.report)
  return UInt32.ofNat outcome.code

end Gazetteer

/-- The program. -/
def main (arguments : List String) : IO UInt32 := do
  match Gazetteer.Command.Invocation.ofArguments (arguments.map String.toList) with
  | .ok i => Gazetteer.carryOut i
  | .error e =>
    (← IO.getStderr).putStrLn (String.ofList ("error: ".toList ++ e.message))
    return 2
