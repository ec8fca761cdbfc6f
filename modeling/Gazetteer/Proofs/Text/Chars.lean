/-
# Gazetteer.Proofs.Text.Chars -- classes of characters by their code points

Every class of characters that the library tests for is a few ranges of code points. Whether two
classes have a character in common is then a question about numbers.
-/
import Gazetteer.Text.Blank

namespace Gazetteer.Text

open scoped Powers

/-- A property of all characters of a text is decided by going through the text; going through all
characters there are would be no good. -/
instance decidableAll (p : Char → Prop) [DecidablePred p] (t : Text) : Decidable (∀ c ∈ t, p c) :=
  List.decidableBAll p t

/-! ## Classes -/

theorem isDigit_iff {c : Char} : c.isDigit = true ↔ 48 ≤ c.toNat ∧ c.toNat ≤ 57 :=
  Char.isDigit_iff_toNat

theorem isUpper_iff {c : Char} : c.isUpper = true ↔ 65 ≤ c.toNat ∧ c.toNat ≤ 90 := by
  show decide (c.val ≥ 'A'.val ∧ c.val ≤ 'Z'.val) = true ↔ _
  simp [UInt32.le_iff_toNat_le]

theorem isLower_iff {c : Char} : c.isLower = true ↔ 97 ≤ c.toNat ∧ c.toNat ≤ 122 := by
  show (c.val ≥ 'a'.val && c.val ≤ 'z'.val : Bool) = true ↔ _
  simp [UInt32.le_iff_toNat_le]

theorem isAlphanum_iff {c : Char} : c.isAlphanum = true ↔
    (65 ≤ c.toNat ∧ c.toNat ≤ 90 ∨ 97 ≤ c.toNat ∧ c.toNat ≤ 122) ∨
      48 ≤ c.toNat ∧ c.toNat ≤ 57 := by
  show ((c.isUpper || c.isLower) || c.isDigit) = true ↔ _
  simp only [Bool.or_eq_true, isUpper_iff, isLower_iff, isDigit_iff]

/-- There are ten digits. -/
theorem mem_of_isDigit {c : Char} (h : c.isDigit = true) : c ∈ "0123456789".toList := by
  have hall : ∀ n ≤ 57, 48 ≤ n → Char.ofNat n ∈ "0123456789".toList := by decide
  have hrange := isDigit_iff.mp h
  rw [← Char.ofNat_toNat c]
  exact hall c.toNat hrange.2 hrange.1

/-- White space is outside printable ASCII, but for the space itself. -/
theorem toNat_of_isBlankChar {c : Char} (h : isBlankChar c = true) :
    c.toNat ≤ 32 ∨ 133 ≤ c.toNat := by
  simp only [isBlankChar, Bool.or_eq_true, Bool.and_eq_true, decide_eq_true_eq, beq_iff_eq] at h
  omega

/-- No printable ASCII character but the space is white space. -/
theorem isBlankChar_eq_false {c : Char} (h : 33 ≤ c.toNat ∧ c.toNat ≤ 132) :
    isBlankChar c = false := by
  rw [Bool.eq_false_iff]
  intro hblank
  have hrange := toNat_of_isBlankChar hblank
  omega

/-! ## Raising a letter -/

theorem toUpper_of_not_isLower {c : Char} (h : c.isLower = false) : c.toUpper = c := by
  unfold Char.toUpper
  refine dif_neg fun hrange => ?_
  have hlower : c.isLower = true := isLower_iff.mpr
    ⟨UInt32.le_iff_toNat_le.mp hrange.1, UInt32.le_iff_toNat_le.mp hrange.2⟩
  exact absurd hlower (by simp [h])

theorem toNat_toUpper {c : Char} (h : c.isLower = true) : c.toUpper.toNat = c.toNat - 32 := by
  have hrange : 97 ≤ c.val.toNat ∧ c.val.toNat ≤ 122 := isLower_iff.mp h
  have hletter : 'a'.val ≤ c.val ∧ c.val ≤ 'z'.val := by
    simp only [UInt32.le_iff_toNat_le]
    exact hrange
  have hshift : ('A'.val - 'a'.val).toNat = 2 ^ (32 : Nat) - 32 := by decide
  unfold Char.toUpper
  rw [dif_pos hletter]
  show (c.val + ('A'.val - 'a'.val)).toNat = c.val.toNat - 32
  rw [UInt32.toNat_add, hshift]
  omega

theorem isLower_toUpper (c : Char) : c.toUpper.isLower = false := by
  cases hc : c.isLower with
  | false => rw [toUpper_of_not_isLower hc, hc]
  | true =>
    have hrange := isLower_iff.mp hc
    rw [Bool.eq_false_iff]
    intro hlower
    have hraised := isLower_iff.mp hlower
    rw [toNat_toUpper hc] at hraised
    omega

theorem isBlankChar_toUpper (c : Char) : isBlankChar c.toUpper = isBlankChar c := by
  cases hc : c.isLower with
  | false => rw [toUpper_of_not_isLower hc]
  | true =>
    have hrange := isLower_iff.mp hc
    have hraised := toNat_toUpper hc
    rw [isBlankChar_eq_false (by omega), isBlankChar_eq_false (by omega)]

/-! ## Lowering a letter -/

theorem toLower_of_not_isUpper {c : Char} (h : c.isUpper = false) : c.toLower = c := by
  unfold Char.toLower
  refine dif_neg fun hrange => ?_
  have hupper : c.isUpper = true := isUpper_iff.mpr
    ⟨UInt32.le_iff_toNat_le.mp hrange.1, UInt32.le_iff_toNat_le.mp hrange.2⟩
  exact absurd hupper (by simp [h])

theorem toNat_toLower {c : Char} (h : c.isUpper = true) : c.toLower.toNat = c.toNat + 32 := by
  have hrange : 65 ≤ c.val.toNat ∧ c.val.toNat ≤ 90 := isUpper_iff.mp h
  have hletter : c.val ≥ 'A'.val ∧ c.val ≤ 'Z'.val := by
    simp only [ge_iff_le, UInt32.le_iff_toNat_le]
    exact hrange
  have hshift : ('a'.val - 'A'.val).toNat = 32 := by decide
  unfold Char.toLower
  rw [dif_pos hletter]
  show (c.val + ('a'.val - 'A'.val)).toNat = c.val.toNat + 32
  rw [UInt32.toNat_add, hshift]
  omega

theorem isLower_eq_false_of_isUpper {c : Char} (h : c.isUpper = true) : c.isLower = false := by
  have hrange := isUpper_iff.mp h
  rw [Bool.eq_false_iff]
  intro hlower
  have hlower := isLower_iff.mp hlower
  omega

theorem isUpper_eq_false_of_isLower {c : Char} (h : c.isLower = true) : c.isUpper = false := by
  rw [Bool.eq_false_iff]
  intro hupper
  exact absurd (isLower_eq_false_of_isUpper hupper) (by simp [h])

theorem toUpper_toLower (c : Char) : c.toLower.toUpper = c.toUpper := by
  cases hc : c.isUpper with
  | false => rw [toLower_of_not_isUpper hc]
  | true =>
    have hrange := isUpper_iff.mp hc
    have hlowered := toNat_toLower hc
    have hlower : c.toLower.isLower = true := isLower_iff.mpr (by omega)
    rw [toUpper_of_not_isLower (isLower_eq_false_of_isUpper hc), ← Char.toNat_inj,
      toNat_toUpper hlower]
    omega

theorem toLower_toUpper (c : Char) : c.toUpper.toLower = c.toLower := by
  cases hc : c.isLower with
  | false => rw [toUpper_of_not_isLower hc]
  | true =>
    have hrange := isLower_iff.mp hc
    have hraised := toNat_toUpper hc
    have hupper : c.toUpper.isUpper = true := isUpper_iff.mpr (by omega)
    rw [toLower_of_not_isUpper (isUpper_eq_false_of_isLower hc), ← Char.toNat_inj,
      toNat_toLower hupper]
    omega

/-- Two texts differ at most in the case of their letters if they are the same in upper case. -/
theorem sameLetters_iff {a b : Text} : sameLetters a b = true ↔ upper a = upper b := by
  have hlower : ∀ t, lower (upper t) = lower t := by
    intro t
    rw [lower, upper, List.map_map]
    exact List.map_congr_left fun c _ => toLower_toUpper c
  have hupper : ∀ t, upper (lower t) = upper t := by
    intro t
    rw [lower, upper, List.map_map]
    exact List.map_congr_left fun c _ => toUpper_toLower c
  rw [sameLetters, beq_iff_eq]
  constructor
  · intro h
    rw [← hupper a, h, hupper]
  · intro h
    rw [← hlower a, h, hlower]

/-! ## The digits of a text -/

theorem digits_append (s t : Text) : digits (s ++ t) = digits s ++ digits t :=
  List.filter_append ..

theorem digits_eq_self {t : Text} (h : ∀ c ∈ t, c.isDigit = true) : digits t = t :=
  List.filter_eq_self.mpr h

theorem digits_eq_nil {t : Text} (h : ∀ c ∈ t, c.isDigit = false) : digits t = [] :=
  List.filter_eq_nil_iff.mpr fun c hc => by simp [h c hc]

end Gazetteer.Text
