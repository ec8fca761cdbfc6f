/-
# Gazetteer.Dataset.Form -- datasets and documents as JSON

A dataset is written as a record of its three lists. A document is read with the same keys, but
much of it may be left out: the languages and groups, and in each entry whatever has a default.
-/
import Gazetteer.Country.Form
import Gazetteer.Dataset.Document

namespace Gazetteer

open Json (Form Row)

/-! ## Datasets -/

/-- A dataset, written as a record. -/
def Dataset.form : Form Dataset :=
  .record "CountryDb"
    (.field "countries" false (.list Country.form) <| .field "languages" false (.list Language.form)
      <| .field "groups" false (.list Group.form) .done)
    (fun d => (d.countries, d.languages, d.groups, ()))
    (fun (countries, languages, groups, ()) => ⟨countries, languages, groups⟩)
    (fun _ => rfl)

/-- The counts of a dataset, written as a record. -/
def Dataset.Stats.form : Form Dataset.Stats :=
  .record "DbStats"
    (.field "countries" false .count <| .field "languages" false .count
      <| .field "groups" false .count .done)
    (fun s => (s.countries, s.languages, s.groups, ()))
    (fun (countries, languages, groups, ()) => ⟨countries, languages, groups⟩)
    (fun _ => rfl)

/-! ## Documents -/

/-- A language in a document. -/
def LanguageEntry.form : Form LanguageEntry :=
  .record "LanguageRaw"
    (.field "code" false .text <| .field "name" false .text <| .field "nativeName" false .text
      <| .field "rtl" true (.nullable .boolean) <| .field "script" true (.nullable .text) .done)
    (fun l => (l.code, l.name, l.nativeName, l.rtl, l.script, ()))
    (fun (code, name, nativeName, rtl, script, ()) => ⟨code, name, nativeName, rtl, script⟩)
    (fun _ => rfl)

/-- A group in a document. -/
def GroupEntry.form : Form GroupEntry :=
  .record "CountryGroupRaw"
    (.field "id" false .text <| .field "name" false .text <| .field "type" false .text
      <| .field "description" true (.nullable .text) <| .field "members" true (.list .text) .done)
    (fun g => (g.id, g.name, g.kind, g.description, g.members, ()))
    (fun (id, name, kind, description, members, ()) => ⟨id, name, kind, description, members⟩)
    (fun _ => rfl)

/-- A dataset document. -/
def Document.form : Form Document :=
  .record "DatasetRaw"
    (.field "countries" false (.list Country.entryForm)
      <| .field "languages" true (.list LanguageEntry.form)
      <| .field "groups" true (.list GroupEntry.form) .done)
    (fun d => (d.countries, d.languages, d.groups, ()))
    (fun (countries, languages, groups, ()) => ⟨countries, languages, groups⟩)
    (fun _ => rfl)

end Gazetteer
