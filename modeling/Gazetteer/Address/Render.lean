/-
# Gazetteer.Address.Render -- formatting an address through a template

A template is a list of lines (`Gazetteer.Address.Template`). Three outcomes are kept apart: no
template, so the address cannot be formatted (`none`); a template of which no line shows anything
(`some []`); and the lines that show something, in the order of the template.
-/
import Gazetteer.Address.Components
import Gazetteer.Address.Template

namespace Gazetteer.Address

/-- The lines of an address that show something; `none` for an absent or empty template. -/
def renderLines (c : Components) (template : Option (List Text)) : Option (List Text) :=
  match template with
  | none | some [] => none
  | some lines => some ((lines.map (Template.renderLine c.value)).filter (fun l => !l.isEmpty))

/-- The lines of an address in one text, parted by line ends. -/
def render (c : Components) (template : Option (List Text)) : Option Text :=
  (renderLines c template).map (Text.joined ['\n'])

/-- The fields that the lines of a template substitute. -/
def substitutedFields (lines : List Text) : List Field :=
  (lines.flatMap Template.substitutionKeys).filterMap Field.ofKey?

/-- The fields that a template substitutes, each once and in canonical order. Keys that stand only
in section tags, and keys of no field, do not count. -/
def requiredFields (template : Option (List Text)) : List Field :=
  Field.collected (substitutedFields (template.getD []))

end Gazetteer.Address
