/-
# Gazetteer.Address.Components -- the parts of one address

A set of components gives each field a value or none. The value is kept as it was written; it is
trimmed where a template asks for it, so an absent value, an empty one and one of white space only
all count as unset there.
-/
import Gazetteer.Text.Scan
import Gazetteer.Address.Field

namespace Gazetteer.Address

/-- The components of one address: the stored value of each field that has one. -/
structure Components where
  get? : Field → Option Text

namespace Components

/-- No field has a value. -/
def empty : Components := ⟨fun _ => none⟩

/-- Gives a field a value, in place of the one it had. -/
def set (c : Components) (f : Field) (v : Text) : Components :=
  ⟨fun g => if g = f then some v else c.get? g⟩

/-- The components collected from a list of values; the last value of a field counts. -/
def ofPairs (pairs : List (Field × Text)) : Components :=
  pairs.foldl (fun c (f, v) => c.set f v) empty

/-- The trimmed value of a template key, empty for an unset field and for a key of no field. -/
def value (c : Components) (key : Text) : Text :=
  match (Field.ofKey? key).bind c.get? with
  | some v => Text.trim v
  | none => []

/-- No field has a value other than white space. -/
def isBlank (c : Components) : Bool := Field.all.all (fun f => (c.value f.key).isEmpty)

end Components

/-! ## Components written as `key=value` -/

/-- Why a text is not a component written as `key=value`. -/
inductive ComponentError where
  /-- The text has no equals sign. -/
  | noEquals (given : Text)
  /-- The part before the equals sign names no field. -/
  | unknownField (u : Field.Unknown)
  deriving DecidableEq, Repr

/-- What is told about a text that is no component. -/
def ComponentError.message : ComponentError → Text
  | .noEquals given => "expected key=value, got `" ++ given ++ "`"
  | .unknownField u => u.message

/-- Reads a component; the value is everything after the first equals sign. -/
def parseComponent (t : Text) : Except ComponentError (Field × Text) :=
  match Text.cut? "=" t with
  | none => .error (.noEquals t)
  | some (key, value) =>
    match Field.parse key with
    | .ok f => .ok (f, value)
    | .error u => .error (.unknownField u)

end Gazetteer.Address
