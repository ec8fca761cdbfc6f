/-
# Gazetteer.Proofs.Phone.NarrowNumbers -- a digit that is not laid out completes no number

Formatting takes the ten digits of ASCII, and every other character of an input counts as
decoration. So an input could hold a digit of another script that is shown nowhere. A pattern of
ASCII and white space lets no such input pass: what it accepts holds no other digit, and the digits
of a complete number are those in the slots of its mask.
-/
import Gazetteer.Proofs.Pattern.NarrowReading
import Gazetteer.Proofs.Phone.Agreement
import Gazetteer.Proofs.Phone.Positions
import Gazetteer.Proofs.Text.DecimalDigits

namespace Gazetteer.Phone

open Pattern.Narrow (Sequence)

/-- A complete number shows its digits in the slots of the mask. -/
theorem Classified.filled [Pattern.SizeLimit] {c : Conventions} {input : Text} {n : Number}
    (h : Classified c input n) (hstatus : n.status = .complete) :
    validate input c.pattern = true
      ∧ ∃ mask front behind, c.mask.bind Mask.ofText? = some mask
        ∧ mask.CutBehind mask.slots front behind
        ∧ Mask.Filled front (Text.digits input) n.formatted := by
  cases h with
  | @complete mask code hmask _ _ hfull hvalid =>
    obtain ⟨front, behind, hcut, hfilled⟩ :=
      Mask.exists_cutBehind (m := mask) (Nat.le_of_eq hfull)
    rw [hfull] at hcut
    exact ⟨hvalid, mask, front, behind, hmask, hcut, hfilled⟩
  | _ => cases hstatus

end Gazetteer.Phone
