/-
# Gazetteer.Proofs.Text.Numeral -- what a decimal numeral looks like

The decimal numeral of a number is a row of digits that is not empty, and only the numeral of zero
starts with a zero.
-/
import Gazetteer.Text.Basic

namespace Gazetteer.Text

/-- A row of digits without a superfluous zero in front. -/
structure IsNumeral (t : Text) : Prop where
  ne_nil : t ≠ []
  isDigit : ∀ c ∈ t, c.isDigit = true
  eq_zero : t.head? = some '0' → t = ['0']

theorem isDigit_of_mem_numeral {n : Nat} {c : Char} (h : c ∈ numeral n) : c.isDigit = true :=
  Nat.isDigit_of_mem_toDigits (by decide) (by decide) h

/-- Only the numeral of zero starts with a zero. -/
theorem eq_zero_of_head?_numeral {n : Nat} (h : (numeral n).head? = some '0') : n = 0 := by
  induction n using Nat.strongRecOn with
  | ind n ih =>
    unfold numeral at h ih
    rcases Nat.lt_or_ge n 10 with hlt | hge
    · rw [Nat.toDigits_of_lt_base hlt] at h
      exact Nat.digitChar_eq_zero.mp (Option.some.inj h)
    -- The first digit is that of the tenth part, which is not zero.
    · obtain ⟨c, t, hcons⟩ :=
        List.exists_cons_of_ne_nil (Nat.toDigits_ne_nil (n := n / 10) (b := 10))
      have hzero : n / 10 = 0 := by
        refine ih (n / 10) (by omega) ?_
        rw [Nat.toDigits_of_base_le (by decide) hge, hcons] at h
        rw [hcons]
        exact h
      omega

theorem isNumeral_numeral (n : Nat) : IsNumeral (numeral n) where
  ne_nil := Nat.toDigits_ne_nil
  isDigit := fun _ => isDigit_of_mem_numeral
  eq_zero := by
    intro h
    rw [eq_zero_of_head?_numeral h]
    rfl

end Gazetteer.Text
