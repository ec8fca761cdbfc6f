/-
# Gazetteer.Proofs.Phone.Status -- the count of the digits decides

With a mask and a calling code at hand, what is shown of an input is settled by the digits in it:
none, fewer than there are slots, as many, or more. The stored pattern is asked in one of the four
cases only.
-/
import Gazetteer.Phone.Analysis

namespace Gazetteer.Phone

variable [Pattern.SizeLimit] {c : Conventions} {mask : Mask} {code : Text}

theorem analyze_eq (hmask : c.mask.bind Mask.ofText? = some mask)
    (hcode : Text.nonBlank? c.callingCode = some code) (input : Text) :
    analyze input c =
      if (Text.digits input).isEmpty then .unchanged .empty input
      else if (Text.digits input).length < mask.slots then
        .shown .incomplete input (mask.fill (Text.digits input)) code
      else if (Text.digits input).length = mask.slots ∧ validate input c.pattern then
        .shown .complete input (mask.fill (Text.digits input)) code
      else .unchanged .invalid input := by
  rw [analyze, hmask, hcode]

/-! ## The four cases -/

theorem analyze_none (hmask : c.mask.bind Mask.ofText? = some mask)
    (hcode : Text.nonBlank? c.callingCode = some code) {input : Text}
    (h : Text.digits input = []) : analyze input c = .unchanged .empty input := by
  rw [analyze_eq hmask hcode, h]
  rfl

theorem analyze_few (hmask : c.mask.bind Mask.ofText? = some mask)
    (hcode : Text.nonBlank? c.callingCode = some code) {input : Text}
    (h : Text.digits input ≠ []) (hfew : (Text.digits input).length < mask.slots) :
    analyze input c = .shown .incomplete input (mask.fill (Text.digits input)) code := by
  rw [analyze_eq hmask hcode, if_neg (by simpa using h), if_pos hfew]

theorem analyze_full (hmask : c.mask.bind Mask.ofText? = some mask)
    (hcode : Text.nonBlank? c.callingCode = some code) {input : Text}
    (h : Text.digits input ≠ []) (hfull : (Text.digits input).length = mask.slots) :
    analyze input c =
      if validate input c.pattern then
        .shown .complete input (mask.fill (Text.digits input)) code
      else .unchanged .invalid input := by
  rw [analyze_eq hmask hcode, if_neg (by simpa using h), if_neg (by omega)]
  simp [hfull]

theorem analyze_many (hmask : c.mask.bind Mask.ofText? = some mask)
    (hcode : Text.nonBlank? c.callingCode = some code) {input : Text}
    (hmany : mask.slots < (Text.digits input).length) :
    analyze input c = .unchanged .invalid input := by
  have h : Text.digits input ≠ [] := List.ne_nil_of_length_pos (by omega)
  rw [analyze_eq hmask hcode, if_neg (by simpa using h), if_neg (by omega), if_neg (by omega)]

/-! ## The statuses -/

/-- An input is empty exactly if there is no digit in it. -/
theorem status_eq_empty_iff (hmask : c.mask.bind Mask.ofText? = some mask)
    (hcode : Text.nonBlank? c.callingCode = some code) {input : Text} :
    (analyze input c).status = .empty ↔ Text.digits input = [] := by
  constructor
  · intro hstatus
    rw [analyze_eq hmask hcode] at hstatus
    split at hstatus
    · rename_i hnil
      exact List.isEmpty_iff.mp hnil
    · split at hstatus
      · exact absurd hstatus (by simp [Number.shown])
      · split at hstatus
        · exact absurd hstatus (by simp [Number.shown])
        · exact absurd hstatus (by simp [Number.unchanged])
  · intro hnil
    rw [analyze_none hmask hcode hnil]
    rfl

/-- An input is incomplete exactly if it has digits, but fewer than the mask has slots. -/
theorem status_eq_incomplete_iff (hmask : c.mask.bind Mask.ofText? = some mask)
    (hcode : Text.nonBlank? c.callingCode = some code) {input : Text} :
    (analyze input c).status = .incomplete
      ↔ 0 < (Text.digits input).length ∧ (Text.digits input).length < mask.slots := by
  constructor
  · intro hstatus
    rw [analyze_eq hmask hcode] at hstatus
    split at hstatus
    · exact absurd hstatus (by simp [Number.unchanged])
    · rename_i hne
      split at hstatus
      · rename_i hfew
        exact ⟨List.length_pos_iff.mpr (by simpa using hne), hfew⟩
      · split at hstatus
        · exact absurd hstatus (by simp [Number.shown])
        · exact absurd hstatus (by simp [Number.unchanged])
  · rintro ⟨hpos, hfew⟩
    rw [analyze_few hmask hcode (List.length_pos_iff.mp hpos) hfew]
    rfl

/-- With a digit for every slot an input is complete or invalid. -/
theorem status_of_full (hmask : c.mask.bind Mask.ofText? = some mask)
    (hcode : Text.nonBlank? c.callingCode = some code) {input : Text}
    (h : Text.digits input ≠ []) (hfull : (Text.digits input).length = mask.slots) :
    (analyze input c).status = .complete ∨ (analyze input c).status = .invalid := by
  rw [analyze_full hmask hcode h hfull]
  split
  · exact Or.inl rfl
  · exact Or.inr rfl

end Gazetteer.Phone
