/-
# Gazetteer.Proofs.Decimal.Plain -- a decimal written out, and read again

A decimal number written out has digits before the point without a superfluous zero, and digits
behind it only where they are needed: there is no point without a digit behind it, and the last of
them is not zero. No exponent is written. Reading such a text gives the double nearest to the number
that its digits write.
-/
import Gazetteer.Decimal.Reading
import Gazetteer.Proofs.Decimal.Fixed
import Gazetteer.Proofs.Decimal.Shortest
import Gazetteer.Proofs.Text.Chars

namespace Gazetteer.Decimal

open Text (numeral IsNumeral)

/-! ## Plain notation -/

/-- The digits before the point and those behind it; the point goes with the latter. -/
def pointed (whole fraction : Text) : Text :=
  whole ++ if fraction.isEmpty then [] else '.' :: fraction

/-- Digits around a point with nothing superfluous. -/
structure IsPlain (whole fraction : Text) : Prop where
  isNumeral : IsNumeral whole
  isDigit : ∀ c ∈ fraction, c.isDigit = true
  last : fraction.getLast? ≠ some '0'

/-- The number that digits around a point write. -/
def pointedValue (whole fraction : Text) : ℚ :=
  digitsValue (whole ++ fraction) * 10 ^ (-(fraction.length : ℤ))

theorem digitsValue_zeros (k : Nat) : digitsValue (List.replicate k '0') = 0 := by
  rw [digitsValue_eq, Nat.ofDigitChars_replicate_zero, Nat.mul_zero]

theorem isDigit_of_mem_zeros {k : Nat} {c : Char} (h : c ∈ List.replicate k '0') :
    c.isDigit = true := by
  rw [List.eq_of_mem_replicate h]
  rfl

/-- A beginning of a numeral other than zero is one as well. -/
theorem isNumeral_of_head?_eq {n : Nat} (hn : n ≠ 0) {t : Text} (hne : t ≠ [])
    (hdigits : ∀ c ∈ t, c.isDigit = true) (hhead : t.head? = (numeral n).head?) : IsNumeral t where
  ne_nil := hne
  isDigit := hdigits
  eq_zero := fun hzero => absurd (Text.eq_zero_of_head?_numeral (hhead ▸ hzero)) hn

theorem getLast?_numeral_ne {n : Nat} (hn : n % 10 ≠ 0) : (numeral n).getLast? ≠ some '0' := by
  rw [getLast?_numeral, ne_eq, Option.some.injEq]
  exact fun h => hn (Nat.digitChar_eq_zero.mp h)

/-- Zeros behind the digits of a number. -/
theorem isPlain_filled {n : Nat} (hn : n ≠ 0) (k : Nat) :
    IsPlain (numeral n ++ List.replicate k '0') [] := by
  have hne : numeral n ≠ [] := Nat.toDigits_ne_nil
  refine ⟨isNumeral_of_head?_eq hn (by simp [hne]) ?_ (List.head?_append_of_ne_nil _ hne), by simp,
    by simp⟩
  intro c hc
  rcases List.mem_append.mp hc with hdigit | hfill
  · exact Text.isDigit_of_mem_numeral hdigit
  · exact isDigit_of_mem_zeros hfill

/-- A point among the digits of a number. -/
theorem isPlain_cut {n : Nat} (hn : n % 10 ≠ 0) {cut : Nat} (hcut : 0 < cut)
    (hless : cut < (numeral n).length) : IsPlain ((numeral n).take cut) ((numeral n).drop cut) := by
  have hzero : n ≠ 0 := fun h => by simp [h] at hn
  have hne : numeral n ≠ [] := Nat.toDigits_ne_nil
  refine ⟨isNumeral_of_head?_eq hzero ?_ ?_ ?_, ?_, ?_⟩
  · rw [ne_eq, List.take_eq_nil_iff]
    rintro (h | h)
    · omega
    · exact hne h
  · exact fun c hc => Text.isDigit_of_mem_numeral (List.mem_of_mem_take hc)
  · rw [List.head?_take, if_neg (by omega)]
  · exact fun c hc => Text.isDigit_of_mem_numeral (List.mem_of_mem_drop hc)
  · rw [List.getLast?_drop, if_neg (by omega)]
    exact getLast?_numeral_ne hn

/-- Zeros between the point and the digits of a number. -/
theorem isPlain_behindZeros {n : Nat} (hn : n % 10 ≠ 0) (k : Nat) :
    IsPlain ['0'] (List.replicate k '0' ++ numeral n) := by
  refine ⟨Text.isNumeral_numeral 0, fun c hc => ?_, ?_⟩
  · rcases List.mem_append.mp hc with hfill | hdigit
    · exact isDigit_of_mem_zeros hfill
    · exact Text.isDigit_of_mem_numeral hdigit
  · have hne : numeral n ≠ [] := Nat.toDigits_ne_nil
    rw [List.getLast?_append_of_ne_nil _ hne]
    exact getLast?_numeral_ne hn

/-- A decimal that does not end in zero is written with nothing superfluous, and the digits are
its own, filled up with zeros. -/
theorem Scaled.plain_eq {d : Scaled} (hd : d.digits % 10 ≠ 0) :
    ∃ whole fraction, IsPlain whole fraction ∧ d.plain = pointed whole fraction
      ∧ digitsValue (whole ++ fraction) = d.digits * 10 ^ d.power.toNat
      ∧ fraction.length = (-d.power).toNat := by
  have hzero : d.digits ≠ 0 := fun h => by simp [h] at hd
  have hne : numeral d.digits ≠ [] := Nat.toDigits_ne_nil
  simp only [Scaled.plain]
  split_ifs with hpower hshift
  · refine ⟨numeral d.digits ++ List.replicate d.power.toNat '0', [], isPlain_filled hzero _,
      by simp [pointed], ?_, ?_⟩
    · rw [List.append_nil, digitsValue_append, digitsValue_numeral, digitsValue_zeros,
        List.length_replicate, Nat.add_zero, Nat.mul_comm]
    · rw [List.length_nil]
      omega
  · have htoNat : d.power.toNat = 0 := by omega
    have hlength : 0 < (numeral d.digits).length := List.length_pos_iff.mpr hne
    have hcut : 0 < (numeral d.digits).length - (-d.power).toNat := by omega
    have hless : (numeral d.digits).length - (-d.power).toNat < (numeral d.digits).length := by omega
    have hshort : (numeral d.digits).length - ((numeral d.digits).length - (-d.power).toNat)
        = (-d.power).toNat := by omega
    generalize (numeral d.digits).length - (-d.power).toNat = cut at hcut hless hshort ⊢
    have hbehind : (numeral d.digits).drop cut ≠ [] := by
      rw [ne_eq, List.drop_eq_nil_iff]
      omega
    refine ⟨(numeral d.digits).take cut, (numeral d.digits).drop cut, isPlain_cut hd hcut hless,
      by simp [pointed, hbehind], ?_, ?_⟩
    · rw [List.take_append_drop, digitsValue_numeral, htoNat, pow_zero, Nat.mul_one]
    · rw [List.length_drop, hshort]
  · have htoNat : d.power.toNat = 0 := by omega
    refine ⟨['0'], List.replicate ((-d.power).toNat - (numeral d.digits).length) '0'
      ++ numeral d.digits, isPlain_behindZeros hd _, by simp [pointed, hne], ?_, ?_⟩
    · have hfill : ['0'] ++ (List.replicate ((-d.power).toNat - (numeral d.digits).length) '0'
          ++ numeral d.digits)
          = List.replicate ((-d.power).toNat - (numeral d.digits).length + 1) '0'
            ++ numeral d.digits := by
        rw [List.replicate_succ]
        rfl
      rw [hfill, digitsValue_append, digitsValue_zeros, digitsValue_numeral, htoNat]
      simp
    · rw [List.length_append, List.length_replicate]
      omega

/-- The text of a decimal writes the number that it is. -/
theorem pointedValue_eq {d : Scaled} {whole fraction : Text}
    (hvalue : digitsValue (whole ++ fraction) = d.digits * 10 ^ d.power.toNat)
    (hlength : fraction.length = (-d.power).toNat) : pointedValue whole fraction = d.value := by
  rw [pointedValue, hvalue, hlength, Scaled.value, zpow_eq_div (by norm_num : (10 : ℚ) ≠ 0) d.power,
    zpow_neg, zpow_natCast]
  push_cast
  ring

/-! ## Reading -/

variable {whole fraction : Text}

/-- The text starts with a digit. -/
theorem IsPlain.exists_cons (h : IsPlain whole fraction) :
    ∃ c t, pointed whole fraction = c :: t ∧ c.isDigit = true := by
  obtain ⟨c, t, rfl⟩ := List.exists_cons_of_ne_nil h.isNumeral.ne_nil
  exact ⟨c, t ++ _, rfl, h.isNumeral.isDigit c List.mem_cons_self⟩

/-- A text that starts with a digit has no sign and is no word. -/
theorem read?_of_isDigit {c : Char} (hc : c.isDigit = true) (t : Text) :
    read? (c :: t) = unsigned? false (c :: t) ∧ read? ('-' :: c :: t) = unsigned? true (c :: t) := by
  have hsign : takeSign (c :: t) = (false, c :: t) := by
    unfold takeSign
    split
    · cases List.head_eq_of_cons_eq ‹_›
      exact absurd hc (by decide)
    · cases List.head_eq_of_cons_eq ‹_›
      exact absurd hc (by decide)
    · rfl
  have hlower : c.toLower = c := by
    refine Text.toLower_of_not_isUpper (Bool.eq_false_iff.mpr fun hupper => ?_)
    have hdigit := Text.isDigit_iff.mp hc
    have hletter := Text.isUpper_iff.mp hupper
    omega
  have hword : ∀ (ch : Char) (word : Text), ch.toLower.isDigit = false →
      Text.sameLetters (c :: t) (ch :: word) = false := by
    intro ch word hhead
    refine Bool.eq_false_iff.mpr fun hsame => ?_
    simp only [Text.sameLetters, Text.lower, List.map_cons, hlower, beq_iff_eq] at hsame
    obtain ⟨rfl, -⟩ := List.cons.inj hsame
    exact absurd hhead (by simp [hc])
  have hinf : Text.sameLetters (c :: t) "inf" = false := hword 'i' "nf" (by decide)
  have hinfinity : Text.sameLetters (c :: t) "infinity" = false := hword 'i' "nfinity" (by decide)
  have hnan : Text.sameLetters (c :: t) "nan" = false := hword 'n' "an" (by decide)
  constructor
  · simp only [read?, hsign, hinf, hinfinity, hnan, Bool.or_self, Bool.false_eq_true, if_false]
  · simp only [read?, takeSign, hinf, hinfinity, hnan, Bool.or_self, Bool.false_eq_true, if_false]

/-- Digits around a point are read as the double nearest to their number. -/
theorem unsigned?_pointed (negative : Bool) (h : IsPlain whole fraction) :
    unsigned? negative (pointed whole fraction)
      = some (.ofDecimal negative (digitsValue (whole ++ fraction)) (-(fraction.length : ℤ))) := by
  have hpoint : ('.').isDigit = false := rfl
  have hwholeNe : whole.isEmpty = false := by simp [h.isNumeral.ne_nil]
  have htake : (pointed whole fraction).takeWhile Char.isDigit = whole := by
    unfold pointed
    split_ifs
    · rw [List.append_nil]
      exact List.takeWhile_eq_self_iff.mpr h.isNumeral.isDigit
    · rw [List.takeWhile_append_of_pos h.isNumeral.isDigit, List.takeWhile_cons_of_neg (by simp),
        List.append_nil]
  have hdrop : (pointed whole fraction).drop whole.length
      = if fraction.isEmpty then [] else '.' :: fraction := List.drop_left
  simp only [unsigned?, htake, hdrop, hwholeNe, Bool.false_and, Bool.false_eq_true, if_false]
  by_cases hempty : fraction = []
  · simp [hempty, exponent?]
  · have htakeAll : fraction.takeWhile Char.isDigit = fraction :=
      List.takeWhile_eq_self_iff.mpr h.isDigit
    have hdropAll : fraction.dropWhile Char.isDigit = [] := List.dropWhile_eq_nil_iff.mpr h.isDigit
    simp [hempty, htakeAll, hdropAll, exponent?]

/-- A plain number with its sign is read as the double nearest to it. -/
theorem read?_pointed (negative : Bool) (h : IsPlain whole fraction) :
    read? ((if negative then ['-'] else []) ++ pointed whole fraction)
      = some (.ofDecimal negative (digitsValue (whole ++ fraction)) (-(fraction.length : ℤ))) := by
  have hread := unsigned?_pointed negative h
  obtain ⟨c, t, hcons, hc⟩ := h.exists_cons
  rw [hcons] at hread ⊢
  obtain ⟨hplain, hminus⟩ := read?_of_isDigit hc t
  cases negative with
  | false => exact hplain.trans hread
  | true => exact hminus.trans hread

/-! ## Counting the digits of a text -/

/-- The digits of a text up to its exponent. -/
def mantissa (t : Text) : Text := Text.digits (t.takeWhile fun c => c != 'e' && c != 'E')

/-- How many significant digits a text writes. -/
def significantDigitsOf (t : Text) : Nat := significantDigits (digitsValue (mantissa t))

/-- What stands behind the digits starts with the letter of an exponent, if there is anything. -/
theorem mantissa_of_exponent? {t : Text} {e : ℤ} (h : exponent? t = some e) : mantissa t = [] := by
  cases t with
  | nil => rfl
  | cons c t =>
    have hletter : c = 'e' ∨ c = 'E' := by
      simp only [exponent?, Option.ite_none_right_eq_some, Bool.and_eq_true, Bool.or_eq_true,
        beq_iff_eq] at h
      exact h.1.1.1
    rcases hletter with rfl | rfl <;> rfl

theorem mantissa_append_of_isDigit {s : Text} (h : ∀ c ∈ s, c.isDigit = true) (t : Text) :
    mantissa (s ++ t) = s ++ mantissa t := by
  have hletter : ∀ c ∈ s, (c != 'e' && c != 'E') = true := by
    intro c hc
    have hdigit := h c hc
    rw [Bool.and_eq_true, bne_iff_ne, bne_iff_ne]
    constructor <;>
    · rintro rfl
      exact absurd hdigit (by decide)
  rw [mantissa, List.takeWhile_append_of_pos hletter, Text.digits_append, Text.digits_eq_self h]
  rfl

/-- What is no digit and no letter of an exponent does not count. -/
theorem mantissa_cons_of_not_isDigit {c : Char} (hdigit : c.isDigit = false) (he : c ≠ 'e')
    (hE : c ≠ 'E') (t : Text) : mantissa (c :: t) = mantissa t := by
  simp [mantissa, Text.digits, he, hE, hdigit]

theorem mantissa_pointed (h : IsPlain whole fraction) :
    mantissa (pointed whole fraction) = whole ++ fraction := by
  rw [pointed, mantissa_append_of_isDigit h.isNumeral.isDigit]
  split_ifs with hempty
  · rw [List.isEmpty_iff.mp hempty]
    rfl
  · have hfraction := mantissa_append_of_isDigit h.isDigit []
    rw [List.append_nil] at hfraction
    rw [mantissa_cons_of_not_isDigit rfl (by decide) (by decide), hfraction]
    exact congrArg (whole ++ ·) (List.append_nil fraction)

theorem mantissa_signed (negative : Bool) (t : Text) :
    mantissa ((if negative then ['-'] else []) ++ t) = mantissa t := by
  cases negative with
  | false => rfl
  | true => exact mantissa_cons_of_not_isDigit rfl (by decide) (by decide) t

theorem mantissa_takeSign (t : Text) : mantissa (takeSign t).2 = mantissa t := by
  unfold takeSign
  split
  · exact (mantissa_cons_of_not_isDigit rfl (by decide) (by decide) _).symm
  · exact (mantissa_cons_of_not_isDigit rfl (by decide) (by decide) _).symm
  · rfl

theorem takeWhile_append_mantissa (t : Text) :
    t.takeWhile Char.isDigit ++ mantissa (t.dropWhile Char.isDigit) = mantissa t := by
  have hdigits : ∀ c ∈ t.takeWhile Char.isDigit, c.isDigit = true :=
    fun c hc => List.mem_takeWhile_imp hc
  rw [← mantissa_append_of_isDigit hdigits, List.takeWhile_append_dropWhile]

/-- The digits of a text that is read are those of the decimal that it writes. -/
theorem eq_ofDecimal_of_unsigned? {negative : Bool} {t : Text} {x : Binary64}
    (h : unsigned? negative t = some x) :
    ∃ p, x = .ofDecimal negative (digitsValue (mantissa t)) p := by
  have hdrop : t.drop (t.takeWhile Char.isDigit).length = t.dropWhile Char.isDigit := by
    conv_lhs =>
      arg 2
      rw [← List.takeWhile_append_dropWhile (p := Char.isDigit) (l := t)]
    exact List.drop_left
  simp only [unsigned?, hdrop, Option.ite_none_left_eq_some, Option.map_eq_some_iff] at h
  obtain ⟨-, e, he, rfl⟩ := h
  refine ⟨_, congrArg (fun n => Binary64.ofDecimal negative n _) ?_⟩
  rw [← takeWhile_append_mantissa t]
  congr 2
  generalize t.dropWhile Char.isDigit = rest at he ⊢
  split at he
  · rename_i behind
    rw [mantissa_cons_of_not_isDigit rfl (by decide) (by decide), ← takeWhile_append_mantissa,
      mantissa_of_exponent? he, List.append_nil]
  · exact (mantissa_of_exponent? he).symm

theorem eq_ofDecimal_of_read? {t : Text} {x : Binary64} (hx : x.isFinite = true)
    (h : read? t = some x) : ∃ negative p, x = .ofDecimal negative (digitsValue (mantissa t)) p := by
  simp only [read?] at h
  split_ifs at h
  · cases h
    exact absurd hx (by simp [Binary64.isFinite, Binary64.infinity])
  · cases h
    exact absurd hx (by simp [Binary64.isFinite, Binary64.nan])
  · obtain ⟨p, hp⟩ := eq_ofDecimal_of_unsigned? h
    rw [mantissa_takeSign] at hp
    exact ⟨_, p, hp⟩

end Gazetteer.Decimal
