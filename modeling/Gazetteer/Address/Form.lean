/-
# Gazetteer.Address.Form -- address fields and components as JSON

A field is written as its key. A set of components is written as a record of all fields in canonical
order, null for each that has no value; every field may be missing when it is read.
-/
import Gazetteer.Address.Components
import Gazetteer.Json.Form

namespace Gazetteer.Address

open Json (Form Row)

/-- A field, written as its key. -/
def Field.form : Form Field := .label Field.all (fun f => by cases f <;> decide) Field.key

namespace Components

/-- The values of the fifteen fields, in canonical order. -/
abbrev Tuple : Type :=
  Option Text × Option Text × Option Text × Option Text × Option Text × Option Text × Option Text
    × Option Text × Option Text × Option Text × Option Text × Option Text × Option Text
    × Option Text × Option Text × Unit

/-- One field of the record. -/
def column {β : Type} (f : Field) (rest : Row β) : Row (Option Text × β) :=
  .field f.key true (.nullable .text) rest

/-- The fields of the record. -/
def row : Row Tuple :=
  column .recipient <| column .houseNumber <| column .house <| column .road
    <| column .neighbourhood <| column .suburb <| column .cityDistrict <| column .city
    <| column .postalTown <| column .county <| column .stateCode <| column .state
    <| column .postcode <| column .country <| column .countryCode .done

/-- The values in canonical order. -/
def toTuple (c : Components) : Tuple :=
  (c.get? .recipient, c.get? .houseNumber, c.get? .house, c.get? .road, c.get? .neighbourhood,
    c.get? .suburb, c.get? .cityDistrict, c.get? .city, c.get? .postalTown, c.get? .county,
    c.get? .stateCode, c.get? .state, c.get? .postcode, c.get? .country, c.get? .countryCode, ())

/-- The components with some values in canonical order. -/
def ofTuple : Tuple → Components
  | (recipient, houseNumber, house, road, neighbourhood, suburb, cityDistrict, city, postalTown,
      county, stateCode, state, postcode, country, countryCode, ()) =>
    ⟨fun f =>
      match f with
      | .recipient => recipient
      | .houseNumber => houseNumber
      | .house => house
      | .road => road
      | .neighbourhood => neighbourhood
      | .suburb => suburb
      | .cityDistrict => cityDistrict
      | .city => city
      | .postalTown => postalTown
      | .county => county
      | .stateCode => stateCode
      | .state => state
      | .postcode => postcode
      | .country => country
      | .countryCode => countryCode⟩

/-- A set of components, written as a record of all fields. -/
def form : Form Components :=
  .record "AddressComponents" row toTuple ofTuple
    (fun c => congrArg Components.mk (funext fun f => by cases f <;> rfl))

end Components

end Gazetteer.Address
