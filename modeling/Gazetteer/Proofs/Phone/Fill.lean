/-
# Gazetteer.Proofs.Phone.Fill -- reading the digits of a filled mask again

A filled mask is digits and decoration. The decoration of a mask may itself hold digits, and then
nothing can be told from the filled mask; if it holds none, the digits that were laid onto the mask
are exactly the digits that are read from it, as long as each of them finds a slot. The last
character of a filled mask is always a digit, since decoration is laid only while there are digits
to come.
-/
import Gazetteer.Phone.Mask
import Gazetteer.Proofs.Text.Chars

namespace Gazetteer.Phone

namespace Mask

/-- No character of the mask is an ASCII digit. -/
def DigitFree (m : Mask) : Prop := ∀ c ∈ m.text, c.isDigit = false

instance (m : Mask) : Decidable m.DigitFree :=
  inferInstanceAs (Decidable (∀ c ∈ m.text, c.isDigit = false))

/-- The decoration in front of the first slot. -/
def lead (m : Mask) : Text := m.text.takeWhile (· != slot)

/-- The text of a mask is that mask. -/
theorem ofText?_text (m : Mask) : ofText? m.text = some m := dif_pos m.notBlank

/-! ## Laying digits -/

@[simp] theorem lay_nil_right (mask : Text) : lay mask [] = [] := by
  induction mask with
  | nil => rfl
  | cons c mask ih =>
    unfold lay
    split <;> exact ih

theorem lay_slot (mask : Text) (d : Char) (digits : Text) :
    lay (slot :: mask) (d :: digits) = d :: lay mask digits := by
  simp [lay]

theorem lay_decoration {c : Char} (hc : c ≠ slot) (mask : Text) (d : Char) (digits : Text) :
    lay (c :: mask) (d :: digits) = c :: lay mask (d :: digits) := by
  simp [lay, hc]

/-- The last digit that is laid stands at the very end; what stands in front of it holds the other
digits, or is the leading decoration if there are none. -/
theorem lay_concat {mask digits : Text} (hfree : ∀ c ∈ mask, c.isDigit = false)
    (hdigits : ∀ c ∈ digits, c.isDigit = true) (hroom : digits.length < mask.count slot)
    (d : Char) :
    ∃ front, lay mask (digits ++ [d]) = front ++ [d] ∧ Text.digits front = digits
      ∧ (digits = [] → front = mask.takeWhile (· != slot)) := by
  induction mask generalizing digits with
  | nil => exact absurd hroom (by simp)
  | cons c mask ih =>
    have hrest : ∀ c ∈ mask, c.isDigit = false := fun x hx => hfree x (List.mem_cons_of_mem _ hx)
    by_cases hc : c = slot
    · subst hc
      rw [List.count_cons_self] at hroom
      cases digits with
      -- The last digit takes the slot, and nothing stands in front of it.
      | nil => exact ⟨[], by simp [lay_slot], rfl, by simp⟩
      | cons e digits =>
        have hlast : ∀ c ∈ digits, c.isDigit = true :=
          fun x hx => hdigits x (List.mem_cons_of_mem _ hx)
        have hless : digits.length < mask.count slot := by
          rw [List.length_cons] at hroom
          omega
        obtain ⟨front, hlay, hread, -⟩ := ih hrest hlast hless
        have he : e.isDigit = true := hdigits e (by simp)
        refine ⟨e :: front, ?_, ?_, by simp⟩
        · rw [List.cons_append, lay_slot, hlay, List.cons_append]
        · rw [Text.digits, List.filter_cons_of_pos he]
          exact congrArg (e :: ·) hread
    -- Decoration is laid, since there is a digit to come.
    · rw [List.count_cons_of_ne hc] at hroom
      obtain ⟨front, hlay, hread, hlead⟩ := ih hrest hdigits hroom
      have hcd : ¬ c.isDigit = true := by simp [hfree c (by simp)]
      refine ⟨c :: front, ?_, ?_, ?_⟩
      · obtain ⟨e, others, hcons⟩ := List.exists_cons_of_ne_nil (l := digits ++ [d]) (by simp)
        rw [hcons, lay_decoration hc, ← hcons, hlay, List.cons_append]
      · rw [Text.digits, List.filter_cons_of_neg hcd]
        exact hread
      · intro hnil
        rw [List.takeWhile_cons_of_pos (by simpa using hc), hlead hnil]

/-! ## The filled mask -/

variable {m : Mask}

@[simp] theorem fill_nil (m : Mask) : m.fill [] = [] := lay_nil_right m.text

theorem fill_concat (hfree : m.DigitFree) {digits : Text}
    (hdigits : ∀ c ∈ digits, c.isDigit = true) (hroom : digits.length < m.slots) (d : Char) :
    ∃ front, m.fill (digits ++ [d]) = front ++ [d] ∧ Text.digits front = digits
      ∧ (digits = [] → front = m.lead) :=
  lay_concat hfree hdigits hroom d

/-- **The digits of a filled mask are the digits it was filled with**, if each finds a slot. -/
theorem digits_fill (hfree : m.DigitFree) {digits : Text}
    (hdigits : ∀ c ∈ digits, c.isDigit = true) (hroom : digits.length ≤ m.slots) :
    Text.digits (m.fill digits) = digits := by
  rcases List.eq_nil_or_concat digits with rfl | ⟨init, d, rfl⟩
  · rw [fill_nil]
    rfl
  · rw [List.concat_eq_append] at hdigits hroom ⊢
    have hd : d.isDigit = true := hdigits d (by simp)
    have hless : init.length < m.slots := by
      rw [List.length_append, List.length_singleton] at hroom
      omega
    obtain ⟨front, hfill, hread, -⟩ :=
      fill_concat hfree (fun c hc => hdigits c (List.mem_append_left _ hc)) hless d
    have hlast : Text.digits [d] = [d] := Text.digits_eq_self (by simpa using hd)
    rw [hfill, Text.digits_append, hread, hlast]

/-- The leading decoration has no digit to read. -/
theorem digits_lead (hfree : m.DigitFree) {t : Text} (h : t <+: m.lead) : Text.digits t = [] := by
  refine Text.digits_eq_nil fun c hc => hfree c ?_
  exact (List.takeWhile_prefix _).subset (h.subset hc)

end Mask

end Gazetteer.Phone
