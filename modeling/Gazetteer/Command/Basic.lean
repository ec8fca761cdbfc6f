/-
# Gazetteer.Command.Basic -- what the program can be asked

A call of the program names one command with its arguments, and says where the dataset comes from,
which countries to keep, and in which layout to answer.
-/
import Gazetteer.Address.Components
import Gazetteer.Decimal.Binary64

namespace Gazetteer

/-- A command with its arguments. -/
inductive Command where
  /-- Counts the dataset. -/
  | stats
  /-- Lists all countries. -/
  | countries
  /-- Shows a country. -/
  | country (code : Text)
  /-- Lists the members of a group. -/
  | group (id : Text)
  /-- Lists the languages of a country. -/
  | languages (code : Text)
  /-- Formats and classifies a phone number. -/
  | phone (code : Text) (number : Text)
  /-- Formats an address. -/
  | address (code : Text) (components : List (Address.Field × Text))
  /-- Lists the fields that a country's template uses. -/
  | fields (code : Text)
  /-- Formats an amount. -/
  | currency (code : Text) (amount : Binary64)
  /-- Checks a postal code. -/
  | postal (code : Text) (postcode : Text)

namespace Command

/-- A call of the program. -/
structure Invocation where
  /-- The path of a document, in place of the embedded one. -/
  input : Option Text := none
  /-- The alpha-2 codes of the countries to keep, with commas between. -/
  filter : Option Text := none
  /-- Whether to answer in JSON. -/
  json : Bool := false
  command : Command

/-- The names of the commands. -/
inductive Verb where
  | stats
  | countries
  | country
  | group
  | languages
  | phone
  | address
  | fields
  | currency
  | postal
  deriving DecidableEq, Repr

namespace Verb

/-- The names in their order of mention. -/
def all : List Verb :=
  [.stats, .countries, .country, .group, .languages, .phone, .address, .fields, .currency, .postal]

/-- How a name is written. -/
def word : Verb → Text
  | .stats => "stats"
  | .countries => "countries"
  | .country => "country"
  | .group => "group"
  | .languages => "languages"
  | .phone => "phone"
  | .address => "address"
  | .fields => "fields"
  | .currency => "currency"
  | .postal => "postal"

/-- The name that a word writes. -/
def ofWord? (t : Text) : Option Verb := all.find? (fun v => v.word == t)

/-- What the arguments of a command are called. -/
def argumentNames : Verb → List Text
  | .stats | .countries => []
  | .country | .languages | .address | .fields => ["CODE"]
  | .group => ["ID"]
  | .phone => ["CODE", "NUMBER"]
  | .currency => ["CODE", "AMOUNT"]
  | .postal => ["CODE", "POSTCODE"]

/-- Whether the next argument may be a number below zero, given how many there are already. -/
def takesNumber (v : Verb) (count : Nat) : Bool := v = .currency && count = 1

end Verb

end Command

end Gazetteer
