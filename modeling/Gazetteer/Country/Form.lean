/-
# Gazetteer.Country.Form -- countries, languages, groups and amounts as JSON

Records are written with all their fields, null for a text that is absent. The same fields serve for
countries in a dataset document, where all but the codes and the name may be left out.
-/
import Gazetteer.Country.Currency
import Gazetteer.Json.Form

namespace Gazetteer

open Json (Form Row)

/-! ## Countries -/

namespace Country

/-- The values of the fields of a country, in order. -/
abbrev Tuple : Type :=
  Text × Text × Text × Option Text × List Text × List Text × List Text × Option Text × Option Text
    × Option Text × Option Text × Option Text × Option Text × Option Text × Option Text
    × Option Text × Option (List Text) × Unit

/-- The fields of a country; the flag says whether all but the first three are optional. -/
def row (optional : Bool) : Row Tuple :=
  .field "alpha2" false .text <| .field "alpha3" false .text <| .field "name" false .text
    <| .field "officialName" optional (.nullable .text)
    <| .field "nativeNames" optional (.list .text)
    <| .field "languages" optional (.list .text)
    <| .field "groups" optional (.list .text)
    <| .field "currency" optional (.nullable .text)
    <| .field "currencySymbol" optional (.nullable .text)
    <| .field "phoneCountryCode" optional (.nullable .text)
    <| .field "phoneRegexp" optional (.nullable .text)
    <| .field "phoneFormat" optional (.nullable .text)
    <| .field "postalCodeRegexp" optional (.nullable .text)
    <| .field "postalCodeFormat" optional (.nullable .text)
    <| .field "tld" optional (.nullable .text)
    <| .field "flag" optional (.nullable .text)
    <| .field "addressFormat" optional (.nullable (.list .text)) .done

/-- The values of the fields. -/
def toTuple (c : Country) : Tuple :=
  (c.alpha2, c.alpha3, c.name, c.officialName, c.nativeNames, c.languages, c.groups, c.currency,
    c.currencySymbol, c.phoneCountryCode, c.phoneRegexp, c.phoneFormat, c.postalCodeRegexp,
    c.postalCodeFormat, c.tld, c.flag, c.addressFormat, ())

/-- The country with some values of its fields. -/
def ofTuple : Tuple → Country
  | (alpha2, alpha3, name, officialName, nativeNames, languages, groups, currency, currencySymbol,
      phoneCountryCode, phoneRegexp, phoneFormat, postalCodeRegexp, postalCodeFormat, tld, flag,
      addressFormat, ()) =>
    { alpha2, alpha3, name, officialName, nativeNames, languages, groups, currency, currencySymbol,
      phoneCountryCode, phoneRegexp, phoneFormat, postalCodeRegexp, postalCodeFormat, tld, flag,
      addressFormat }

/-- A country, written as a record. -/
def form : Form Country := .record "Country" (row false) toTuple ofTuple (fun _ => rfl)

/-- A country as it stands in a dataset document. -/
def entryForm : Form Country := .record "CountryRaw" (row true) toTuple ofTuple (fun _ => rfl)

end Country

/-! ## Languages and groups -/

/-- A language, written as a record. -/
def Language.form : Form Language :=
  .record "Language"
    (.field "code" false .text <| .field "name" false .text <| .field "nativeName" false .text
      <| .field "rtl" false .boolean <| .field "script" false (.nullable .text) .done)
    (fun l => (l.code, l.name, l.nativeName, l.rtl, l.script, ()))
    (fun (code, name, nativeName, rtl, script, ()) => ⟨code, name, nativeName, rtl, script⟩)
    (fun _ => rfl)

/-- A kind of group, written as its code. -/
def GroupKind.form : Form GroupKind :=
  .label GroupKind.all (fun k => by cases k <;> decide) GroupKind.code

/-- A group, written as a record. -/
def Group.form : Form Group :=
  .record "CountryGroup"
    (.field "id" false .text <| .field "name" false .text <| .field "type" false GroupKind.form
      <| .field "description" false (.nullable .text) <| .field "members" false (.list .text) .done)
    (fun g => (g.id, g.name, g.kind, g.description, g.members, ()))
    (fun (id, name, kind, description, members, ()) => ⟨id, name, kind, description, members⟩)
    (fun _ => rfl)

/-! ## Amounts -/

namespace Currency

/-- A format, written as a record. -/
def Format.form : Form Format :=
  .record "CurrencyFormat" (.field "fractionDigits" false (.nullable .count) .done)
    (fun f => (f.fractionDigits, ()))
    (fun (fractionDigits, ()) => ⟨fractionDigits⟩)
    (fun _ => rfl)

/-- A kind of part, written as its name. -/
def PartKind.form : Form PartKind :=
  .label PartKind.all (fun k => by cases k <;> decide) PartKind.name

/-- A part of an amount, written as a record. -/
def Part.form : Form Part :=
  .record "CurrencyPart" (.field "type" false PartKind.form <| .field "value" false .text .done)
    (fun p => (p.kind, p.value, ()))
    (fun (kind, value, ()) => ⟨kind, value⟩)
    (fun _ => rfl)

end Currency

end Gazetteer
