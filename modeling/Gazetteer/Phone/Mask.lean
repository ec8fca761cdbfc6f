/-
# Gazetteer.Phone.Mask -- positional phone masks

A mask such as `(###) ###-####` shows how the digits of a national number are set. Every `#` is a
slot for one digit, every other character is decoration. A mask that is blank is no mask.
-/
import Gazetteer.Text.Blank

namespace Gazetteer.Phone

/-- A mask that is not blank. -/
structure Mask where
  text : Text
  notBlank : Text.isBlank text = false

/-- The character of a slot. -/
def slot : Char := '#'

namespace Mask

/-- The mask that a text is, unless it is blank. -/
def ofText? (t : Text) : Option Mask :=
  if h : Text.isBlank t = false then some ⟨t, h⟩ else none

/-- The number of slots, which is the length of a national number. -/
def slots (m : Mask) : Nat := m.text.count slot

/-- The mask with a zero in every slot and its white space evened out. -/
def placeholder (m : Mask) : Text :=
  Text.joined [' '] (Text.words (m.text.map (fun c => if c == slot then '0' else c)))

/-- Lays digits onto the characters of a mask: a slot takes the next digit, and decoration stands
while there are digits to come. -/
def lay : Text → Text → Text
  | [], _ => []
  | c :: mask, digits =>
    if c == slot then
      match digits with
      | [] => lay mask []
      | d :: digits => d :: lay mask digits
    else if digits.isEmpty then lay mask digits
    else c :: lay mask digits

/-- The digits laid onto the mask. Decoration behind the last digit is left out, and so are digits
that find no slot. -/
def fill (m : Mask) (digits : Text) : Text := lay m.text digits

end Mask

/-- The placeholder of a country's mask, if it has one. -/
def placeholder? (mask : Option Text) : Option Text :=
  (mask.bind Mask.ofText?).map Mask.placeholder

/-- The digits of an input laid onto a mask. The input is left as it is without a mask, without a
digit, and, unless a part is allowed, if there are not as many digits as slots. -/
def format (input : Text) (mask : Option Text) (allowPart : Bool) : Text :=
  match mask.bind Mask.ofText? with
  | none => input
  | some mask =>
    let digits := Text.digits input
    if digits.isEmpty || (!allowPart && digits.length != mask.slots) then input
    else mask.fill digits

end Gazetteer.Phone
