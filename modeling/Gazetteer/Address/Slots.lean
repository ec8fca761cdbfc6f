/-
# Gazetteer.Address.Slots -- how a set of components is stored and edited

Each of the fifteen fields has a slot of its own. One table says which slot a field is read from and
a second one which slot it is written to. An edit names its fields in text: it gives one field a
value, or collects a new set in place of the whole. An edit with a name of no field is refused, and
the set stays as it was.
-/
import Gazetteer.Address.Components

namespace Gazetteer.Address

/-- The stored values of one address. -/
structure Slots where
  recipient : Option Text := none
  houseNumber : Option Text := none
  house : Option Text := none
  road : Option Text := none
  neighbourhood : Option Text := none
  suburb : Option Text := none
  cityDistrict : Option Text := none
  city : Option Text := none
  postalTown : Option Text := none
  county : Option Text := none
  stateCode : Option Text := none
  state : Option Text := none
  postcode : Option Text := none
  country : Option Text := none
  countryCode : Option Text := none
  deriving DecidableEq, Repr

namespace Slots

/-- No field has a value. -/
def empty : Slots := {}

/-- The stored value of a field, not trimmed. -/
def slot (s : Slots) : Field → Option Text
  | .recipient => s.recipient
  | .houseNumber => s.houseNumber
  | .house => s.house
  | .road => s.road
  | .neighbourhood => s.neighbourhood
  | .suburb => s.suburb
  | .cityDistrict => s.cityDistrict
  | .city => s.city
  | .postalTown => s.postalTown
  | .county => s.county
  | .stateCode => s.stateCode
  | .state => s.state
  | .postcode => s.postcode
  | .country => s.country
  | .countryCode => s.countryCode

/-- Gives a field a value, in place of the one it had. -/
def set (s : Slots) (f : Field) (v : Text) : Slots :=
  match f with
  | .recipient => { s with recipient := some v }
  | .houseNumber => { s with houseNumber := some v }
  | .house => { s with house := some v }
  | .road => { s with road := some v }
  | .neighbourhood => { s with neighbourhood := some v }
  | .suburb => { s with suburb := some v }
  | .cityDistrict => { s with cityDistrict := some v }
  | .city => { s with city := some v }
  | .postalTown => { s with postalTown := some v }
  | .county => { s with county := some v }
  | .stateCode => { s with stateCode := some v }
  | .state => { s with state := some v }
  | .postcode => { s with postcode := some v }
  | .country => { s with country := some v }
  | .countryCode => { s with countryCode := some v }

/-- The slots written from a list of values, one behind the other. -/
def ofPairs (pairs : List (Field × Text)) : Slots :=
  pairs.foldl (fun s (f, v) => s.set f v) empty

/-- The components that the slots hold. -/
def components (s : Slots) : Components := ⟨s.slot⟩

end Slots

/-! ## Edits -/

/-- What can be done to a set of components. -/
inductive Edit where
  /-- Gives the field of this name a value: in the set itself, or in one that is being built up. -/
  | set (name value : Text)
  /-- Collects a new set from named values, in place of the whole set. -/
  | collect (named : List (Text × Text))
  deriving DecidableEq, Repr

/-- Reads the name of a value. -/
def readNamed (p : Text × Text) : Except Field.Unknown (Field × Text) :=
  match Field.parse p.1 with
  | .ok f => .ok (f, p.2)
  | .error u => .error u

/-- The set after an edit, or the name in it that is refused. -/
def Edit.apply (s : Slots) : Edit → Except Field.Unknown Slots
  | .set name value => do
    let (f, v) ← readNamed (name, value)
    return s.set f v
  | .collect named => do
    let pairs ← named.mapM readNamed
    return .ofPairs pairs

/-- The set after an edit; one that is refused leaves it as it was. -/
def Slots.after (s : Slots) (e : Edit) : Slots :=
  match e.apply s with
  | .ok edited => edited
  | .error _ => s

/-- The set after some edits, the first of them on the empty set. -/
def Slots.edited (edits : List Edit) : Slots := edits.foldl after empty

end Gazetteer.Address
