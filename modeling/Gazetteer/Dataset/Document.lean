/-
# Gazetteer.Dataset.Document -- dataset documents and what they come to

A document holds records as someone wrote them. Loading brings them into normal form: codes are
trimmed and in upper case, a text that may be absent is absent when it is blank, the lines of a
template are trimmed, and a template without lines is absent. A blank line of a template is kept.
The kind of a group is written as free text, and what is no known kind is `other`.

A filter keeps the countries whose alpha-2 code is listed, whatever the case and the surrounding
white space of either. A document that comes to no country at all is no dataset.
-/
import Gazetteer.Dataset.Basic

namespace Gazetteer

/-! ## Documents -/

/-- A language as it is written in a document. -/
structure LanguageEntry where
  code : Text
  name : Text
  nativeName : Text
  /-- Left to right, if it is not said. -/
  rtl : Option Bool := none
  script : Option Text := none
  deriving DecidableEq, Repr

/-- A group as it is written in a document. -/
structure GroupEntry where
  id : Text
  name : Text
  kind : Text
  description : Option Text := none
  members : List Text := []
  deriving DecidableEq, Repr

/-- A dataset document. Its countries are records that are not in normal form yet. -/
structure Document where
  countries : List Country
  languages : List LanguageEntry := []
  groups : List GroupEntry := []
  deriving DecidableEq, Repr

/-! ## Normal form -/

/-- A code, trimmed and in upper case. -/
def normalCode (t : Text) : Text := Text.upper (Text.trim t)

/-- The lines of a template, trimmed; no template if there are none. -/
def normalTemplate (lines : Option (List Text)) : Option (List Text) :=
  (lines.filter (fun ls => !ls.isEmpty)).map (List.map Text.trim)

/-- The normal form of a country. -/
def Country.normal (c : Country) : Country where
  alpha2 := normalCode c.alpha2
  alpha3 := normalCode c.alpha3
  name := c.name
  officialName := Text.nonBlank? c.officialName
  nativeNames := c.nativeNames
  languages := c.languages
  groups := c.groups
  currency := Text.nonBlank? c.currency
  currencySymbol := Text.nonBlank? c.currencySymbol
  phoneCountryCode := Text.nonBlank? c.phoneCountryCode
  phoneRegexp := Text.nonBlank? c.phoneRegexp
  phoneFormat := Text.nonBlank? c.phoneFormat
  postalCodeRegexp := Text.nonBlank? c.postalCodeRegexp
  postalCodeFormat := Text.nonBlank? c.postalCodeFormat
  tld := Text.nonBlank? c.tld
  flag := Text.nonBlank? c.flag
  addressFormat := normalTemplate c.addressFormat

/-- The language of an entry. -/
def LanguageEntry.normal (l : LanguageEntry) : Language where
  code := l.code
  name := l.name
  nativeName := l.nativeName
  rtl := l.rtl.getD false
  script := Text.nonBlank? l.script

/-- The group of an entry. -/
def GroupEntry.normal (g : GroupEntry) : Group where
  id := g.id
  name := g.name
  kind := .ofCode g.kind
  description := Text.nonBlank? g.description
  members := g.members

namespace Document

/-- The dataset of a document. -/
def normal (d : Document) : Dataset where
  countries := d.countries.map Country.normal
  languages := d.languages.map LanguageEntry.normal
  groups := d.groups.map GroupEntry.normal

/-! ## Filters -/

/-- The countries to keep, by alpha-2 code; without a list all are kept. -/
abbrev Filter := Option (List Text)

/-- Whether a filter lists a code. -/
def Filter.keeps (codes : List Text) (alpha2 : Text) : Bool :=
  codes.any (fun code => Text.sameLetters (Text.trim alpha2) (Text.trim code))

/-- The document with only the countries that a filter keeps. -/
def restrict (d : Document) : Filter → Document
  | none => d
  | some codes => { d with countries := d.countries.filter (fun c => Filter.keeps codes c.alpha2) }

/-- The dataset of a document, if it has a country. -/
def toDataset? (d : Document) (filter : Filter) : Option Dataset :=
  let dataset := (d.restrict filter).normal
  if dataset.countries.isEmpty then none else some dataset

end Document

end Gazetteer
