/-
# Gazetteer.Phone.Typing -- a phone number as it is typed

A text field starts empty. A key appends characters, removes the last one, empties the field, or
accepts the formatted number in place of what was typed.
-/
import Gazetteer.Phone.Mask

namespace Gazetteer.Phone

/-- What can be done to the text field. -/
inductive Key where
  | append (t : Text)
  | removeLast
  | clear
  | accept
  deriving DecidableEq, Repr

/-- The text field after a key, under the mask of a country. -/
def Key.press (mask : Option Text) (field : Text) : Key → Text
  | .append t => field ++ t
  | .removeLast => field.dropLast
  | .clear => []
  | .accept => format field mask true

/-- The text field after each of a list of keys. -/
def session (mask : Option Text) : Text → List Key → List Text
  | _, [] => []
  | field, key :: keys =>
    let field := key.press mask field
    field :: session mask field keys

end Gazetteer.Phone
