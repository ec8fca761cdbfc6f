/-
# Gazetteer.Phone.Form -- phone numbers as JSON

A status is written as its name, and a number as a record of its four parts.
-/
import Gazetteer.Json.Form
import Gazetteer.Phone.Analysis

namespace Gazetteer.Phone

open Json (Form Row)

/-- A status, written as its name. -/
def Status.form : Form Status := .label Status.all (fun s => by cases s <;> decide) Status.name

/-- A number, written as a record. -/
def Number.form : Form Number :=
  .record "PhoneNumberState"
    (.field "status" false Status.form <| .field "formatted" false .text
      <| .field "original" false .text <| .field "international" false .text .done)
    (fun n => (n.status, n.formatted, n.typed, n.international, ()))
    (fun (status, formatted, typed, international, ()) =>
      ⟨status, formatted, typed, international⟩)
    (fun _ => rfl)

end Gazetteer.Phone
