/-
# Gazetteer.Address.Field -- the closed set of address components

There are fifteen kinds of address component. Each has one key, which is how templates, address
forms and the command line name it. `Field.all` is the canonical order of the fields: every list of
fields the library answers is in this order. Two fields are compared by their order of mention in
the type, which is the same.
-/
import Gazetteer.Text.Blank

namespace Gazetteer.Address

/-- The kinds of address component. -/
inductive Field where
  /-- The recipient, a person or a business. -/
  | recipient
  | houseNumber
  /-- The name of a building. -/
  | house
  | road
  | neighbourhood
  | suburb
  | cityDistrict
  | city
  /-- The town whose post office serves the address. -/
  | postalTown
  | county
  /-- The code of a state or province. -/
  | stateCode
  | state
  | postcode
  | country
  /-- The alpha-2 code of the country. -/
  | countryCode
  deriving DecidableEq, Ord, Repr

namespace Field

/-- The fields in canonical order. -/
def all : List Field :=
  [.recipient, .houseNumber, .house, .road, .neighbourhood, .suburb, .cityDistrict, .city,
    .postalTown, .county, .stateCode, .state, .postcode, .country, .countryCode]

/-- The key of a field. -/
def key : Field → Text
  | .recipient => "recipient"
  | .houseNumber => "house_number"
  | .house => "house"
  | .road => "road"
  | .neighbourhood => "neighbourhood"
  | .suburb => "suburb"
  | .cityDistrict => "city_district"
  | .city => "city"
  | .postalTown => "postal_town"
  | .county => "county"
  | .stateCode => "state_code"
  | .state => "state"
  | .postcode => "postcode"
  | .country => "country"
  | .countryCode => "country_code"

/-- The field with exactly this key. -/
def ofKey? (k : Text) : Option Field := all.find? (fun f => f.key == k)

/-- The place of a field in the canonical order. -/
def rank (f : Field) : Nat := all.idxOf f

/-! ## Sets of fields -/

/-- Puts a field into a set of fields, which is the list of them in order. -/
def insertInto (f : Field) : List Field → List Field
  | [] => [f]
  | g :: rest =>
    match compare f g with
    | .lt => f :: g :: rest
    | .eq => g :: rest
    | .gt => g :: insertInto f rest

/-- The set of some fields. -/
def collected (fs : List Field) : List Field := fs.foldl (fun set f => f.insertInto set) []

/-! ## Reading a field name -/

/-- A text that names no field; it is kept as it was given. -/
structure Unknown where
  given : Text
  deriving DecidableEq, Repr

/-- What is told about a text that names no field. -/
def Unknown.message (u : Unknown) : Text := "unknown address field: " ++ u.given

/-- Reads a field name, whose surrounding white space does not matter. -/
def parse (t : Text) : Except Unknown Field :=
  match ofKey? (Text.trim t) with
  | some f => .ok f
  | none => .error ⟨t⟩

end Field

end Gazetteer.Address
