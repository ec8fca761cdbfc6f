/-
# Gazetteer.Proofs.Phone.Complete -- when every number of full length is complete

Whether a number of full length is complete is up to the pattern, which could refuse some of the
numbers that fit the mask. It refuses none if it does not tell one digit from another and accepts
the zeros that fill the mask, bare and with the decoration. Six facts about a mask, a pattern and a
calling code therefore say all there is to say about every digit text.
-/
import Gazetteer.Proofs.Pattern.DigitBlind
import Gazetteer.Proofs.Phone.Fill
import Gazetteer.Proofs.Phone.Status

namespace Gazetteer.Phone

open Pattern (blur blurChar)

/-! ## Blurred numbers -/

/-- Without digits in its decoration a mask is blurred by blurring the digits laid onto it. -/
theorem Mask.blur_lay {mask : Text} (hfree : ∀ c ∈ mask, c.isDigit = false) (digits : Text) :
    blur (lay mask digits) = lay mask (blur digits) := by
  induction mask generalizing digits with
  | nil => rfl
  | cons c mask ih =>
    have hrest : ∀ c ∈ mask, c.isDigit = false := fun x hx => hfree x (List.mem_cons_of_mem _ hx)
    have hc : blurChar c = c := by simp [blurChar, hfree c (by simp)]
    cases digits with
    | nil =>
      show blur (lay (c :: mask) []) = lay (c :: mask) []
      rw [lay_nil_right]
      rfl
    | cons d digits =>
      show blur (lay (c :: mask) (d :: digits)) = lay (c :: mask) (blurChar d :: blur digits)
      by_cases hslot : c = slot
      · subst hslot
        rw [lay_slot, lay_slot, ← ih hrest digits]
        rfl
      · rw [lay_decoration hslot, lay_decoration hslot]
        show blurChar c :: blur (lay mask (d :: digits)) = c :: lay mask (blur (d :: digits))
        rw [hc, ih hrest (d :: digits)]

theorem Mask.blur_fill {mask : Mask} (hfree : mask.DigitFree) (digits : Text) :
    blur (mask.fill digits) = mask.fill (blur digits) :=
  Mask.blur_lay hfree digits

/-! ## Conventions that refuse no number -/

/-- A zero for every slot. -/
def Mask.zeros (mask : Mask) : Text := List.replicate mask.slots '0'

/-- With a mask, the conventions refuse no number of full length. -/
structure Conventions.Admits [Pattern.SizeLimit] (c : Conventions) (mask : Mask) : Prop where
  callingCode : (Text.nonBlank? c.callingCode).isSome
  digitFree : mask.DigitFree
  hasSlot : mask.slots ≠ 0
  /-- The pattern does not tell one digit from another. -/
  digitBlind : ∃ r ∈ c.pattern.bind Pattern.compile?, r.DigitBlind
  bare : validate mask.zeros c.pattern = true
  filled : validate (mask.fill mask.zeros) c.pattern = true

instance [Pattern.SizeLimit] (c : Conventions) (mask : Mask) : Decidable (c.Admits mask) :=
  decidable_of_iff
    ((Text.nonBlank? c.callingCode).isSome ∧ mask.DigitFree ∧ mask.slots ≠ 0
      ∧ (∃ r ∈ c.pattern.bind Pattern.compile?, r.DigitBlind)
      ∧ validate mask.zeros c.pattern = true ∧ validate (mask.fill mask.zeros) c.pattern = true)
    ⟨fun ⟨h₁, h₂, h₃, h₄, h₅, h₆⟩ => ⟨h₁, h₂, h₃, h₄, h₅, h₆⟩,
      fun h => ⟨h.1, h.2, h.3, h.4, h.5, h.6⟩⟩

namespace Conventions.Admits

variable [Pattern.SizeLimit] {c : Conventions} {mask : Mask} (h : c.Admits mask)

include h

theorem code_eq : Text.nonBlank? c.callingCode = some (c.callingCode.getD []) := by
  obtain ⟨code, hcode⟩ := Option.isSome_iff_exists.mp h.callingCode
  rw [hcode, Option.eq_some_of_filter_eq_some hcode]
  rfl

/-- Both ways to write a number give its digits back. -/
theorem digits_eq {d input : Text} (hdigits : ∀ x ∈ d, x.isDigit = true)
    (hroom : d.length ≤ mask.slots) (hinput : input = d ∨ input = mask.fill d) :
    Text.digits input = d := by
  rcases hinput with rfl | rfl
  · exact Text.digits_eq_self hdigits
  · exact Mask.digits_fill h.digitFree hdigits hroom

/-- The pattern accepts an input if it accepts its blurred form. -/
theorem validate_blur (input : Text) :
    validate (blur input) c.pattern = validate input c.pattern := by
  obtain ⟨r, hr, hblind⟩ := h.digitBlind
  exact Pattern.accepts_blur hr hblind input

/-- The pattern accepts every number of full length. -/
theorem validate_eq_true {d input : Text} (hdigits : ∀ x ∈ d, x.isDigit = true)
    (hlength : d.length = mask.slots) (hinput : input = d ∨ input = mask.fill d) :
    validate input c.pattern = true := by
  have hzeros : blur d = mask.zeros := by
    rw [Pattern.blur_digits hdigits, hlength]
    rfl
  -- The pattern says of the number what it says of the zeros.
  rw [← h.validate_blur]
  rcases hinput with rfl | rfl
  · rw [hzeros]
    exact h.bare
  · rw [Mask.blur_fill h.digitFree, hzeros]
    exact h.filled

variable (hmask : c.mask.bind Mask.ofText? = some mask)

include hmask

/-! ## The three lengths -/

/-- As many digits as slots are a complete number. -/
theorem analyze_complete {d input : Text} (hdigits : ∀ x ∈ d, x.isDigit = true)
    (hlength : d.length = mask.slots) (hinput : input = d ∨ input = mask.fill d) :
    analyze input c = .shown .complete input (mask.fill d) (c.callingCode.getD []) := by
  have hread : Text.digits input = d := h.digits_eq hdigits (Nat.le_of_eq hlength) hinput
  have hne : d ≠ [] := by
    rintro rfl
    exact h.hasSlot hlength.symm
  rw [analyze_full hmask h.code_eq (by rwa [hread]) (by rw [hread, hlength]), hread,
    if_pos (h.validate_eq_true hdigits hlength hinput)]

/-- Fewer digits than slots, but some, are an incomplete number. -/
theorem analyze_incomplete {p input : Text} (hdigits : ∀ x ∈ p, x.isDigit = true) (hne : p ≠ [])
    (hlength : p.length < mask.slots) (hinput : input = p ∨ input = mask.fill p) :
    analyze input c = .shown .incomplete input (mask.fill p) (c.callingCode.getD []) := by
  have hread : Text.digits input = p := h.digits_eq hdigits (Nat.le_of_lt hlength) hinput
  rw [analyze_few hmask h.code_eq (by rwa [hread]) (by rwa [hread]), hread]

/-- More digits than slots are no number. -/
theorem analyze_surplus {t : Text} (hdigits : ∀ x ∈ t, x.isDigit = true)
    (hlength : mask.slots < t.length) : analyze t c = .unchanged .invalid t := by
  refine analyze_many hmask h.code_eq ?_
  rwa [Text.digits_eq_self hdigits]

end Conventions.Admits

end Gazetteer.Phone
