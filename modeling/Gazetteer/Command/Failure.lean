/-
# Gazetteer.Command.Failure -- what a call reports when it fails

A failure is told on lines of its own. One that has causes lists them below it, indented, and
numbers them if there are several.
-/
import Gazetteer.Dataset.Loading

namespace Gazetteer.Command

/-- Why a call fails. -/
inductive Failure where
  /-- The dataset cannot be loaded; the path is there if the call gave one. -/
  | load (path : Option Text) (e : LoadError)
  | noCountry (code : Text)
  | noGroup (id : Text)
  | noTemplate (name : Text)
  | badPostcode (postcode name : Text)
  deriving DecidableEq, Repr

namespace Failure

/-! ## Causes -/

/-- What is told about a failure to load, the more general first. -/
def loadCauses (e : LoadError) : List Text :=
  match e with
  | .unreadable fault => [e.message, fault.message]
  | e => [e.message]

/-- A failure and its causes, the more general first. -/
def causes : Failure → Text × List Text
  | .load (some path) e => ("loading " ++ path, loadCauses e)
  | .load none e => (e.message, (loadCauses e).tail)
  | .noCountry code => ("No country found for: " ++ code, [])
  | .noGroup id => ("No group found for: " ++ id, [])
  | .noTemplate name => (name ++ " has no address format", [])
  | .badPostcode postcode name => (postcode ++ " is not a valid postal code for " ++ name, [])

/-! ## The report -/

/-- A text whose first line stands behind a margin, and whose other lines stand behind as much
space. -/
def indented (margin : Text) (t : Text) : Text :=
  margin ++ Text.joined ('\n' :: List.replicate margin.length ' ') (Text.splitOn "\n" t)

/-- The margin of a numbered cause: the number right-aligned in five columns. -/
def numberMargin (n : Nat) : Text :=
  let digits := Text.numeral n
  List.replicate (5 - digits.length) ' ' ++ digits ++ ": "

/-- The causes, one below the other. -/
def causeLines : List Text → List Text
  | [cause] => [indented "    " cause]
  | causes => (causes.zipIdx).map fun (cause, n) => indented (numberMargin n) cause

/-- The report of a failure. -/
def report (f : Failure) : Text :=
  let (message, causes) := f.causes
  let below := if causes.isEmpty then [] else [[], "Caused by:"] ++ causeLines causes
  Text.lines (("Error: " ++ message) :: below)

end Failure

end Gazetteer.Command
