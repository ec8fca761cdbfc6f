/-
# Gazetteer.Country.Basic -- countries, languages and groups

The records of a dataset. Optional texts are `none` when a country has no such thing. The functions
here read one record; those that need the whole dataset are in `Gazetteer.Dataset.Lookup`.
-/
import Gazetteer.Address.Render
import Gazetteer.Phone.Analysis
import Gazetteer.Text.Folding

namespace Gazetteer

/-- A country. -/
structure Country where
  /-- The alpha-2 code, in upper case. -/
  alpha2 : Text := []
  /-- The alpha-3 code, in upper case. -/
  alpha3 : Text := []
  /-- The short English name. -/
  name : Text := []
  officialName : Option Text := none
  nativeNames : List Text := []
  /-- The codes of its languages. -/
  languages : List Text := []
  /-- The ids of the groups that it is in. -/
  groups : List Text := []
  /-- The code of its currency. -/
  currency : Option Text := none
  currencySymbol : Option Text := none
  /-- The international calling code, with its plus sign. -/
  phoneCountryCode : Option Text := none
  /-- The stored pattern of national phone numbers. -/
  phoneRegexp : Option Text := none
  /-- The mask of national phone numbers. -/
  phoneFormat : Option Text := none
  postalCodeRegexp : Option Text := none
  postalCodeFormat : Option Text := none
  tld : Option Text := none
  flag : Option Text := none
  /-- The lines of the address template. -/
  addressFormat : Option (List Text) := none
  deriving DecidableEq, Repr

/-- A language. -/
structure Language where
  code : Text
  /-- The English name. -/
  name : Text
  nativeName : Text
  /-- Whether it is written from right to left. -/
  rtl : Bool
  script : Option Text
  deriving DecidableEq, Repr

/-- The kinds of group. -/
inductive GroupKind where
  | continent
  | region
  | economicUnion
  | militaryAlliance
  | politicalUnion
  | customsUnion
  | currencyUnion
  | freeTradeArea
  | culturalGroup
  | other
  deriving DecidableEq, Repr

/-- A named group of countries. -/
structure Group where
  id : Text
  name : Text
  kind : GroupKind
  description : Option Text
  /-- The alpha-2 codes of its members, which need not be in the dataset. -/
  members : List Text
  deriving DecidableEq, Repr

/-! ## Kinds of group -/

namespace GroupKind

/-- The kinds in their order of mention. -/
def all : List GroupKind :=
  [.continent, .region, .economicUnion, .militaryAlliance, .politicalUnion, .customsUnion,
    .currencyUnion, .freeTradeArea, .culturalGroup, .other]

/-- The code of a kind. -/
def code : GroupKind → Text
  | .continent => "CONTINENT"
  | .region => "REGION"
  | .economicUnion => "ECONOMIC_UNION"
  | .militaryAlliance => "MILITARY_ALLIANCE"
  | .politicalUnion => "POLITICAL_UNION"
  | .customsUnion => "CUSTOMS_UNION"
  | .currencyUnion => "CURRENCY_UNION"
  | .freeTradeArea => "FREE_TRADE_AREA"
  | .culturalGroup => "CULTURAL_GROUP"
  | .other => "OTHER"

/-- The kind with a code, whose case and surrounding white space do not matter; `other` for every
text that is no code. -/
def ofCode (t : Text) : GroupKind :=
  (all.find? (fun k => k.code == Text.upper (Text.trim t))).getD .other

end GroupKind

/-! ## Names -/

/-- Whether a query is the name, but for accents and letter case. -/
def isNamed (name query : Text) : Bool := Text.sameFolded name query

/-- Whether a query occurs in the name, but for accents and letter case. -/
def nameContains (name query : Text) : Bool := Text.foldedContains name query

/-! ## Reading a country -/

namespace Country

/-- The official name, or the short one for want of it. -/
def official (c : Country) : Text := c.officialName.getD c.name

/-- The currency code, empty without a currency. -/
def currencyCode (c : Country) : Text := c.currency.getD []

/-- The currency symbol, empty if unknown. -/
def symbol (c : Country) : Text := c.currencySymbol.getD []

/-- The calling code, empty if unknown. -/
def callingCode (c : Country) : Text := c.phoneCountryCode.getD []

/-- Whether the country lists a group among its own. -/
def isMemberOf (c : Country) (groupId : Text) : Bool := c.groups.contains groupId

/-- The phone conventions of the country. -/
def phone (c : Country) : Phone.Conventions := ⟨c.phoneFormat, c.phoneRegexp, c.phoneCountryCode⟩

/-- The lines of an address in the country. -/
def addressLines (c : Country) (parts : Address.Components) : Option (List Text) :=
  Address.renderLines parts c.addressFormat

/-- An address in the country as one text. -/
def address (c : Country) (parts : Address.Components) : Option Text :=
  Address.render parts c.addressFormat

/-- The address fields that the template of the country uses. -/
def requiredFields (c : Country) : List Address.Field := Address.requiredFields c.addressFormat

/-- The phone mask as a placeholder. -/
def phonePlaceholder (c : Country) : Option Text := Phone.placeholder? c.phoneFormat

/-- Formats a phone number. -/
def formatPhone (c : Country) (input : Text) (allowPart : Bool) : Text :=
  Phone.format input c.phoneFormat allowPart

/-- Tests a phone number against the pattern of the country. -/
def validatePhone [Pattern.SizeLimit] (c : Country) (input : Text) : Bool :=
  Phone.validate input c.phoneRegexp

/-- Formats and classifies a phone number. -/
def analyzePhone [Pattern.SizeLimit] (c : Country) (input : Text) : Phone.Number :=
  Phone.analyze input c.phone

/-- Tests the trimmed input against the postal-code pattern of the country. -/
def validatePostalCode [Pattern.SizeLimit] (c : Country) (input : Text) : Bool :=
  Pattern.accepts c.postalCodeRegexp input

/-- The postal-code format as a placeholder: a zero for every digit slot. -/
def postalPlaceholder (c : Country) : Option Text :=
  (Text.nonBlank? c.postalCodeFormat).map fun format =>
    (Text.trim format).map (fun ch => if ch == '#' then '0' else ch)

end Country

/-- Whether a group lists a country among its members. -/
def Group.hasMember (g : Group) (alpha2 : Text) : Bool :=
  g.members.any (Text.sameLetters alpha2)

end Gazetteer
