/-
# Gazetteer.Proofs.Decimal.Rounding -- which numbers round to a double

Between two neighbouring doubles lies a number halfway; what is below it rounds down and what is
above it rounds up. So the numbers that round to a double fill an interval around it, which reaches
half a unit to either side, and only a quarter down where the doubles below are twice as dense. The
ends belong to the interval if the significand is even. `Binary64.Covers` is this interval, on exact
rationals.

Two things are shown of it. Rounding a quotient gives a double exactly if the double covers the
quotient (`nearest_eq_iff`), and likewise for a decimal (`ofDecimal_eq_iff`). And the numbers that a
double covers are exactly those to which it is the nearest of all doubles, the even one of two that
are as near (`Covers.isNearest`, `IsNearest.covers`). Signs are left out up to the last step.
-/
import Gazetteer.Proofs.Decimal.Value
import Gazetteer.Decimal.Shortest

namespace Gazetteer

/-! ## Rounding to whole numbers -/

/-- A nearest whole number is not more than a half away. -/
theorem IsNearestEven.le_half {q : ℚ} {n : Nat} (h : IsNearestEven q n) : |q - n| ≤ 1 / 2 := by
  have hup := h.nearest (n + 1)
  have hdown := h.nearest (n - 1)
  push_cast at hup hdown
  rcases abs_cases (q - n) with ⟨h₁, -⟩ | ⟨h₁, -⟩
    <;> rcases abs_cases (q - (n + 1)) with ⟨h₂, -⟩ | ⟨h₂, -⟩
    <;> rcases abs_cases (q - (n - 1)) with ⟨h₃, -⟩ | ⟨h₃, -⟩
    <;> linarith

theorem IsNearestEven.even_of_half {q : ℚ} {n : Nat} (h : IsNearestEven q n)
    (hhalf : |q - n| = 1 / 2) : Even n := by
  -- The other whole number at the same distance lies on the other side.
  rcases abs_choice (q - n) with hside | hside
  · refine h.even_of_tie (n + 1) (by omega) ?_
    push_cast
    rw [hhalf, abs_of_nonpos (by linarith)]
    linarith
  · refine h.even_of_tie (n - 1) (by omega) ?_
    push_cast
    rw [hhalf, abs_of_nonneg (by linarith)]
    linarith

/-- There is one nearest whole number, if halfway cases go to the even one. -/
theorem IsNearestEven.unique {q : ℚ} {m n : Nat} (hm : IsNearestEven q m) (hn : IsNearestEven q n) :
    m = n := by
  by_contra hne
  -- Both are a half away, on two sides, so that they are neighbours; yet both are even.
  have hone : (1 : ℚ) ≤ |(m : ℚ) - n| := by
    have hint : (1 : ℤ) ≤ |(m : ℤ) - n| := Int.one_le_abs (sub_ne_zero.mpr (by exact_mod_cast hne))
    exact_mod_cast hint
  have htriangle : |(m : ℚ) - n| ≤ |(m : ℚ) - q| + |q - n| := abs_sub_le _ _ _
  rw [abs_sub_comm (m : ℚ) q] at htriangle
  have hmHalf := hm.le_half
  have hnHalf := hn.le_half
  obtain ⟨a, rfl⟩ := hm.even_of_half (by linarith)
  obtain ⟨b, rfl⟩ := hn.even_of_half (by linarith)
  have hnear : |((a + a : Nat) : ℚ) - (b + b : Nat)| ≤ 1 := by linarith
  have hnat : |((a + a : Nat) : ℤ) - (b + b : Nat)| ≤ 1 := by exact_mod_cast hnear
  rw [abs_le] at hnat
  omega

theorem roundHalfEven_eq_iff {num den n : Nat} (hden : 0 < den) :
    roundHalfEven num den = n ↔ IsNearestEven ((num : ℚ) / den) n := by
  have hround := isNearestEven_roundHalfEven num hden
  constructor
  · rintro rfl
    exact hround
  · exact hround.unique

/-- A quotient brought to another unit. -/
theorem scaled_div (num den : Nat) {b : Nat} (hb : b ≠ 0) (e : ℤ) :
    ((num * b ^ (-e).toNat : Nat) : ℚ) / (den * b ^ e.toNat : Nat)
      = (num : ℚ) / den / (b : ℚ) ^ e := by
  have hne : (b : ℚ) ≠ 0 := by exact_mod_cast hb
  rw [zpow_eq_div hne]
  push_cast
  field_simp

namespace Binary64

/-! ## Bits -/

/-- The bits of a double but for its sign, as one number. -/
def magnitudeBits (x : Binary64) : Nat := x.biased.val * 2 ^ 52 + x.fraction.val

theorem biased_lt {x : Binary64} (hx : x.isFinite = true) : x.biased.val < 2047 := by
  have hne : x.biased ≠ 2047 := by simpa [isFinite] using hx
  have hbiased : x.biased.val ≠ 2047 := fun h => hne (Fin.ext h)
  have hsmall := x.biased.isLt
  omega

theorem ofMagnitude_eq_iff {x : Binary64} (hx : x.isFinite = true) {negative : Bool} {bits : Nat} :
    ofMagnitude negative bits = x ↔ x.negative = negative ∧ x.magnitudeBits = bits := by
  have hbiased := biased_lt hx
  have hfraction := x.fraction.isLt
  obtain ⟨sign, biased, fraction⟩ := x
  unfold ofMagnitude magnitudeBits
  split_ifs with hfits
  · simp only [mk.injEq, Fin.ext_iff, Fin.val_ofNat] at *
    constructor
    · rintro ⟨rfl, h₁, h₂⟩
      refine ⟨rfl, ?_⟩
      omega
    · rintro ⟨rfl, h⟩
      refine ⟨rfl, ?_, ?_⟩ <;> omega
  · simp only [mk.injEq] at *
    constructor
    · rintro ⟨-, rfl, -⟩
      exact absurd hbiased (by decide)
    · rintro ⟨-, h⟩
      omega

theorem exponent_ge (x : Binary64) : -1074 ≤ x.exponent := by
  unfold exponent
  omega

theorem significand_lt (x : Binary64) : x.significand < 2 ^ 53 := by
  have hfraction := x.fraction.isLt
  unfold significand
  split <;> omega

/-- Above the least unit the significand has all its bits. -/
theorem le_significand {x : Binary64} (h : -1074 < x.exponent) : 2 ^ 52 ≤ x.significand := by
  unfold exponent at h
  unfold significand
  split_ifs with hzero
  · rw [hzero] at h
    exact absurd h (by decide)
  · exact Nat.le_add_right _ _

theorem full_or_least (x : Binary64) : x.exponent = -1074 ∨ 2 ^ 52 ≤ x.significand := by
  rcases eq_or_lt_of_le x.exponent_ge with h | h
  · exact .inl h.symm
  · exact .inr (le_significand h)

theorem exponent_le {x : Binary64} (hx : x.isFinite = true) : x.exponent ≤ 971 := by
  have hbiased := biased_lt hx
  unfold exponent
  omega

/-- The bits are those of the unit and of the number of units, put together. -/
theorem magnitudeBits_eq (x : Binary64) :
    (x.magnitudeBits : ℤ) = (x.exponent + 1074) * 2 ^ 52 + x.significand := by
  have hzero : x.biased = 0 ↔ x.biased.val = 0 := Fin.ext_iff
  unfold magnitudeBits exponent significand
  simp only [hzero]
  split_ifs <;> push_cast <;> omega

theorem significand_pos {x : Binary64} (hzero : x.isZero = false) : 0 < x.significand := by
  have hne : x.magnitude ≠ 0 := fun h => by simp [x.magnitude_eq_zero_iff.mp h] at hzero
  rw [magnitude_eq_significand] at hne
  refine Nat.pos_of_ne_zero fun h => hne ?_
  rw [h, Nat.cast_zero, zero_mul]

/-! ## The interval -/

/-- The least number that may round to a double. -/
def lowEnd (x : Binary64) : ℚ := (Decimal.lowerQuarters x : ℚ) / 4 * 2 ^ x.exponent

/-- The greatest number that may round to a double. -/
def highEnd (x : Binary64) : ℚ := (Decimal.upperQuarters x : ℚ) / 4 * 2 ^ x.exponent

/-- The number rounds to the double, signs left out. -/
structure Covers (x : Binary64) (q : ℚ) : Prop where
  low : x.lowEnd ≤ q
  high : q ≤ x.highEnd
  even : q = x.lowEnd ∨ q = x.highEnd → Even x.significand

/-- Between two numbers that round to a double all do. -/
theorem Covers.between {x : Binary64} {a b q : ℚ} (ha : x.Covers a) (hb : x.Covers b) (haq : a ≤ q)
    (hqb : q ≤ b) : x.Covers q where
  low := ha.low.trans haq
  high := hqb.trans hb.high
  even := by
    rintro (h | h)
    · exact ha.even (.inl (le_antisymm (haq.trans h.le) ha.low))
    · exact hb.even (.inr (le_antisymm hb.high (h.ge.trans hqb)))

theorem highEnd_eq (x : Binary64) : x.highEnd = (x.significand + 1 / 2) * 2 ^ x.exponent := by
  unfold highEnd Decimal.upperQuarters
  push_cast
  ring

/-- Where the gap below a double is half as wide: at a power of two that is not the least. -/
def HasNarrowGap (x : Binary64) : Prop := x.significand = 2 ^ 52 ∧ -1074 < x.exponent

theorem hasNarrowGap_iff (x : Binary64) :
    x.HasNarrowGap ↔ x.fraction.val = 0 ∧ 1 < x.biased.val := by
  have hzero : x.biased = 0 ↔ x.biased.val = 0 := Fin.ext_iff
  have hfraction := x.fraction.isLt
  unfold HasNarrowGap exponent significand
  simp only [hzero]
  split_ifs <;> omega

theorem lowEnd_eq_of_narrow {x : Binary64} (h : x.HasNarrowGap) :
    x.lowEnd = (2 ^ 52 - 1 / 4) * 2 ^ x.exponent := by
  unfold lowEnd Decimal.lowerQuarters
  rw [if_pos (x.hasNarrowGap_iff.mp h), h.1]
  norm_num

theorem lowEnd_eq_of_not_narrow {x : Binary64} (h : ¬ x.HasNarrowGap) (hpos : 0 < x.significand) :
    x.lowEnd = (x.significand - 1 / 2) * 2 ^ x.exponent := by
  have hle : 2 ≤ 4 * x.significand := by omega
  unfold lowEnd Decimal.lowerQuarters
  rw [if_neg (mt x.hasNarrowGap_iff.mpr h), Nat.cast_sub hle]
  push_cast
  ring

/-- The interval reaches half a unit down at most. -/
theorem le_lowEnd {x : Binary64} (hpos : 0 < x.significand) :
    (x.significand - 1 / 2) * 2 ^ x.exponent ≤ x.lowEnd := by
  by_cases h : x.HasNarrowGap
  · have hunit : (0 : ℚ) < 2 ^ x.exponent := zpow_pos two_pos _
    rw [lowEnd_eq_of_narrow h, h.1]
    push_cast
    nlinarith
  · exact (lowEnd_eq_of_not_narrow h hpos).ge

/-- A double covers itself. -/
theorem covers_magnitude {x : Binary64} (hpos : 0 < x.significand) : x.Covers x.magnitude := by
  have hunit : (0 : ℚ) < 2 ^ x.exponent := zpow_pos two_pos _
  have hbelow : x.lowEnd < x.magnitude := by
    rw [magnitude_eq_significand]
    by_cases h : x.HasNarrowGap
    · rw [lowEnd_eq_of_narrow h, h.1]
      push_cast
      nlinarith
    · rw [lowEnd_eq_of_not_narrow h hpos]
      nlinarith
  have habove : x.magnitude < x.highEnd := by
    rw [magnitude_eq_significand, highEnd_eq]
    nlinarith
  refine ⟨hbelow.le, habove.le, ?_⟩
  rintro (h | h)
  · exact absurd h hbelow.ne'
  · exact absurd h habove.ne

/-- Nothing but positive numbers round to a double other than zero. -/
theorem Covers.pos {x : Binary64} {q : ℚ} (h : x.Covers q) (hpos : 0 < x.significand) : 0 < q := by
  have hunit : (0 : ℚ) < 2 ^ x.exponent := zpow_pos two_pos _
  have hone : (1 : ℚ) ≤ x.significand := by exact_mod_cast hpos
  refine lt_of_lt_of_le (mul_pos ?_ hunit) ((le_lowEnd hpos).trans h.low)
  linarith

/-! ## The unit that a quotient is rounded in -/

/-- A number below all significands of one unit is not above the least full one of a greater. -/
theorem exponent_le_of_lt {q : ℚ} {e e' : ℤ} (h : q < 2 ^ 53 * 2 ^ e) (h' : 2 ^ 52 * 2 ^ e' ≤ q) :
    e' ≤ e := by
  by_contra hlt
  have hstep : (2 : ℚ) ^ (e + 1) ≤ 2 ^ e' := zpow_le_zpow_right₀ one_le_two (by omega)
  rw [zpow_add_one₀ two_ne_zero] at hstep
  linarith

/-- The unit is so small that the quotient takes at most 53 bits, and it takes all of them unless
the unit is the least. -/
structure IsUnit (q : ℚ) (e : ℤ) : Prop where
  ge : -1074 ≤ e
  lt : q < 2 ^ 53 * 2 ^ e
  full : e = -1074 ∨ 2 ^ 52 * 2 ^ e ≤ q

theorem IsUnit.unique {q : ℚ} {e e' : ℤ} (h : IsUnit q e) (h' : IsUnit q e') : e = e' := by
  refine le_antisymm ?_ ?_
  · rcases h.full with rfl | hfull
    · exact h'.ge
    · exact exponent_le_of_lt h'.lt hfull
  · rcases h'.full with rfl | hfull
    · exact h.ge
    · exact exponent_le_of_lt h.lt hfull

/-- Where the significand would be full, the least unit takes its place if it is smaller. -/
theorem isUnit_max {q : ℚ} {e : ℤ} (hfull : 2 ^ 52 * 2 ^ e ≤ q) (hlt : q < 2 ^ 53 * 2 ^ e) :
    IsUnit q (max (-1074) e) := by
  have hmono : (2 : ℚ) ^ e ≤ 2 ^ max (-1074) e :=
    zpow_le_zpow_right₀ one_le_two (le_max_right _ _)
  refine ⟨le_max_left _ _, by linarith, ?_⟩
  rcases le_total e (-1074) with h | h
  · exact .inl (max_eq_left h)
  · rw [max_eq_right h]
    exact .inr hfull

/-- A quotient lies within a factor of two around the power that the lengths of its parts give. -/
theorem quotient_bounds {num den : Nat} (hnum : 0 < num) (hden : 0 < den) {e : ℤ}
    (he : e = num.log2 - den.log2 - 53) :
    2 ^ 52 * 2 ^ e < (num : ℚ) / den ∧ (num : ℚ) / den < 2 ^ 54 * 2 ^ e := by
  have hden' : (0 : ℚ) < den := by exact_mod_cast hden
  have hnumLow : (2 : ℚ) ^ num.log2 ≤ num := by exact_mod_cast Nat.log2_self_le hnum.ne'
  have hnumHigh : (num : ℚ) < 2 ^ (num.log2 + 1) := by exact_mod_cast Nat.lt_log2_self
  have hdenLow : (2 : ℚ) ^ den.log2 ≤ den := by exact_mod_cast Nat.log2_self_le hden.ne'
  have hdenHigh : (den : ℚ) < 2 ^ (den.log2 + 1) := by exact_mod_cast Nat.lt_log2_self
  have hpowers : ∀ i j k : Nat, i + e + j = k → (2 : ℚ) ^ i * 2 ^ e * 2 ^ j = 2 ^ k := by
    intro i j k hsum
    rw [← zpow_natCast, ← zpow_natCast, ← zpow_natCast, ← zpow_add₀ two_ne_zero,
      ← zpow_add₀ two_ne_zero, hsum]
  constructor
  · rw [lt_div_iff₀ hden']
    calc (2 : ℚ) ^ 52 * 2 ^ e * den < 2 ^ 52 * 2 ^ e * 2 ^ (den.log2 + 1) :=
          mul_lt_mul_of_pos_left hdenHigh (by positivity)
      _ = 2 ^ num.log2 := hpowers _ _ _ (by push_cast; omega)
      _ ≤ num := hnumLow
  · rw [div_lt_iff₀ hden']
    calc (num : ℚ) < 2 ^ (num.log2 + 1) := hnumHigh
      _ = 2 ^ 54 * 2 ^ e * 2 ^ den.log2 := (hpowers _ _ _ (by push_cast; omega)).symm
      _ ≤ 2 ^ 54 * 2 ^ e * den := mul_le_mul_of_nonneg_left hdenLow (by positivity)

theorem isUnit_unitExponent {num den : Nat} (hnum : 0 < num) (hden : 0 < den) :
    IsUnit ((num : ℚ) / den) (unitExponent num den) := by
  let e : ℤ := num.log2 - den.log2 - 53
  obtain ⟨hbelow, habove⟩ := quotient_bounds hnum hden (e := e) rfl
  have hfits : num * 2 ^ (-e).toNat < 2 ^ 53 * (den * 2 ^ e.toNat)
      ↔ (num : ℚ) / den < 2 ^ 53 * 2 ^ e := by
    have hscaled := scaled_div num den (b := 2) two_ne_zero e
    have hpositive : (0 : ℚ) < (den * 2 ^ e.toNat : Nat) := by
      exact_mod_cast Nat.mul_pos hden (Nat.two_pow_pos _)
    have hunit : (0 : ℚ) < 2 ^ e := zpow_pos two_pos _
    rw [Nat.cast_ofNat] at hscaled
    rw [← div_lt_iff₀ hunit, ← hscaled, div_lt_iff₀ hpositive]
    exact_mod_cast Iff.rfl
  have hstep : (2 : ℚ) ^ (e + 1) = 2 * 2 ^ e := by rw [zpow_add_one₀ two_ne_zero, mul_comm]
  have hunit : unitExponent num den
      = max (-1074) (if num * 2 ^ (-e).toNat < 2 ^ 53 * (den * 2 ^ e.toNat) then e else e + 1) := rfl
  rw [hunit]
  split_ifs with h
  · exact isUnit_max hbelow.le (hfits.mp h)
  · have hge := not_lt.mp (mt hfits.mpr h)
    exact isUnit_max (by rw [hstep]; linarith) (by rw [hstep]; linarith)

/-! ## Rounding to a double -/

/-- A number that a double covers, at least as large as the least number with the unit of the double,
has that unit too. -/
theorem Covers.isNearestEven {x : Binary64} {q : ℚ} {e : ℤ} (h : x.Covers q) (hunit : IsUnit q e)
    (hpos : 0 < x.significand) (hfull : x.exponent = -1074 ∨ 2 ^ 52 * 2 ^ x.exponent ≤ q) :
    e = x.exponent ∧ IsNearestEven (q / 2 ^ e) x.significand := by
  have hU : (0 : ℚ) < 2 ^ x.exponent := zpow_pos two_pos _
  have hlt : (x.significand : ℚ) + 1 ≤ 2 ^ 53 := by exact_mod_cast x.significand_lt
  have hup := h.high
  have hdown := (le_lowEnd hpos).trans h.low
  rw [x.highEnd_eq] at hup
  have hsame : e = x.exponent := by
    refine hunit.unique ⟨x.exponent_ge, ?_, hfull⟩
    nlinarith
  subst hsame
  rw [← div_le_iff₀ hU] at hup
  rw [← le_div_iff₀ hU] at hdown
  refine ⟨rfl, isNearestEven_of_half ?_ fun htie => ?_⟩
  · rw [abs_le]
    constructor <;> linarith
  · rcases eq_or_eq_neg_of_abs_eq htie with hside | hside
    · refine h.even (.inr ?_)
      rw [x.highEnd_eq, ← div_eq_iff hU.ne']
      linarith
    · have hq : q = (x.significand - 1 / 2) * 2 ^ x.exponent := by
        rw [← div_eq_iff hU.ne']
        linarith
      exact h.even (.inl (le_antisymm (hq.trans_le (le_lowEnd hpos)) h.low))

/-- A smaller number that a double covers is below the power of two that the double is, and is
rounded up to it. -/
theorem Covers.isNearestEven_carry {x : Binary64} {q : ℚ} {e : ℤ} (h : x.Covers q)
    (hunit : IsUnit q e) (hpos : 0 < x.significand) (hexp : -1074 < x.exponent)
    (hbelow : q < 2 ^ 52 * 2 ^ x.exponent) :
    e + 1 = x.exponent ∧ x.significand = 2 ^ 52 ∧ IsNearestEven (q / 2 ^ e) (2 ^ 53) := by
  have hU : (0 : ℚ) < 2 ^ x.exponent := zpow_pos two_pos _
  have hbits := le_significand hexp
  have hleast : x.significand = 2 ^ 52 := by
    have hdown := ((le_lowEnd hpos).trans h.low).trans_lt hbelow
    have hcast : (x.significand : ℚ) - 1 / 2 < 2 ^ 52 := lt_of_mul_lt_mul_right hdown hU.le
    have hnat : x.significand < 2 ^ 52 + 1 := by
      have hless : (x.significand : ℚ) < (2 ^ 52 + 1 : Nat) := by
        push_cast
        linarith
      exact_mod_cast hless
    omega
  have hdown := h.low
  rw [lowEnd_eq_of_narrow ⟨hleast, hexp⟩] at hdown
  have hstep : (2 : ℚ) ^ x.exponent = 2 * 2 ^ (x.exponent - 1) := by
    rw [← zpow_one_add₀ two_ne_zero]
    congr 1
    omega
  rw [hstep] at hdown hbelow
  have hV : (0 : ℚ) < 2 ^ (x.exponent - 1) := zpow_pos two_pos _
  have hsame : e = x.exponent - 1 := by
    refine hunit.unique ⟨by omega, ?_, .inr ?_⟩
    · linarith
    · nlinarith
  refine ⟨by omega, hleast, ?_⟩
  subst hsame
  have hge : 2 ^ 53 - 1 / 2 ≤ q / 2 ^ (x.exponent - 1) := by
    rw [le_div_iff₀ hV]
    linarith
  have hle : q / 2 ^ (x.exponent - 1) < 2 ^ 53 := by
    rw [div_lt_iff₀ hV]
    linarith
  refine isNearestEven_of_half ?_ fun _ => by decide
  rw [abs_le]
  push_cast
  constructor <;> linarith

/-- A double covers the numbers with its unit that round to its significand. -/
theorem covers_of_isNearestEven {x : Binary64} {q : ℚ} (hunit : IsUnit q x.exponent)
    (hpos : 0 < x.significand) (hnear : IsNearestEven (q / 2 ^ x.exponent) x.significand) :
    x.Covers q := by
  have hU : (0 : ℚ) < 2 ^ x.exponent := zpow_pos two_pos _
  have hhigh := x.highEnd_eq
  have hhalf := abs_le.mp hnear.le_half
  have hdown : (x.significand - 1 / 2) * 2 ^ x.exponent ≤ q := by
    rw [← le_div_iff₀ hU]
    linarith
  have hup : q ≤ (x.significand + 1 / 2) * 2 ^ x.exponent := by
    rw [← div_le_iff₀ hU]
    linarith
  have htop : q = x.highEnd → Even x.significand := by
    intro hq
    refine hnear.even_of_half ?_
    rw [hq, hhigh, mul_div_cancel_right₀ _ hU.ne', add_sub_cancel_left]
    exact abs_of_pos (by norm_num)
  by_cases hnarrow : x.HasNarrowGap
  · have hfull : 2 ^ 52 * 2 ^ x.exponent ≤ q := hunit.full.resolve_left hnarrow.2.ne'
    have hless : x.lowEnd < q := by
      rw [lowEnd_eq_of_narrow hnarrow]
      linarith
    exact ⟨hless.le, hhigh ▸ hup, fun h => htop (h.resolve_left hless.ne')⟩
  · refine ⟨(lowEnd_eq_of_not_narrow hnarrow hpos).trans_le hdown, hhigh ▸ hup, ?_⟩
    rintro (hq | hq)
    · refine hnear.even_of_half ?_
      rw [hq, lowEnd_eq_of_not_narrow hnarrow hpos, mul_div_cancel_right₀ _ hU.ne',
        sub_sub_cancel_left, abs_neg]
      exact abs_of_pos (by norm_num)
    · exact htop hq

/-- A double that is a power of two covers the numbers below that round up to it. -/
theorem covers_of_carry {x : Binary64} {q : ℚ} {e : ℤ} (hunit : IsUnit q e)
    (hexp : e + 1 = x.exponent) (hleast : x.significand = 2 ^ 52)
    (hnear : IsNearestEven (q / 2 ^ e) (2 ^ 53)) : x.Covers q := by
  have hnarrow : x.HasNarrowGap := ⟨hleast, by have hge := hunit.ge; omega⟩
  have hstep : (2 : ℚ) ^ x.exponent = 2 * 2 ^ e := by
    rw [← hexp, zpow_add_one₀ two_ne_zero, mul_comm]
  have hV : (0 : ℚ) < 2 ^ e := zpow_pos two_pos _
  have hhalf := (abs_le.mp hnear.le_half).1
  push_cast at hhalf
  have hdown : (2 ^ 53 - 1 / 2) * 2 ^ e ≤ q := by
    rw [← le_div_iff₀ hV]
    linarith
  have hbelow := hunit.lt
  refine ⟨?_, ?_, fun _ => by rw [hleast]; decide⟩
  · rw [lowEnd_eq_of_narrow hnarrow, hstep]
    linarith
  · rw [x.highEnd_eq, hleast, hstep]
    push_cast
    linarith

/-- A number rounds to a double in one of two ways: to its significand in its own unit, or up to it
out of the unit below, where the next power of two begins. -/
theorem covers_iff {x : Binary64} {q : ℚ} {e : ℤ} (hunit : IsUnit q e) (hpos : 0 < x.significand) :
    x.Covers q ↔ e = x.exponent ∧ IsNearestEven (q / 2 ^ e) x.significand
      ∨ e + 1 = x.exponent ∧ x.significand = 2 ^ 52 ∧ IsNearestEven (q / 2 ^ e) (2 ^ 53) := by
  constructor
  · intro h
    by_cases hfull : x.exponent = -1074 ∨ 2 ^ 52 * 2 ^ x.exponent ≤ q
    · exact .inl (h.isNearestEven hunit hpos hfull)
    · obtain ⟨hne, hbelow⟩ := not_or.mp hfull
      have hexp : -1074 < x.exponent := lt_of_le_of_ne x.exponent_ge (Ne.symm hne)
      exact .inr (h.isNearestEven_carry hunit hpos hexp (not_le.mp hbelow))
  · rintro (⟨rfl, hnear⟩ | ⟨hexp, hleast, hnear⟩)
    · exact covers_of_isNearestEven hunit hpos hnear
    · exact covers_of_carry hunit hexp hleast hnear

/-- A double other than zero is what a quotient rounds to exactly if it covers the quotient. -/
theorem nearest_eq_iff {x : Binary64} (hx : x.isFinite = true) (hzero : x.isZero = false)
    {negative : Bool} {num den : Nat} (hden : 0 < den) :
    nearest negative num den = x ↔ x.negative = negative ∧ x.Covers ((num : ℚ) / den) := by
  have hpos := significand_pos hzero
  unfold nearest
  split_ifs with hnum
  · constructor
    · rintro rfl
      exact absurd hzero (by simp [isZero, zero])
    · rintro ⟨-, hcovers⟩
      exact absurd (hcovers.pos hpos) (by simp [hnum])
  have hunit := isUnit_unitExponent (Nat.pos_of_ne_zero hnum) hden
  have hscaled := scaled_div num den (b := 2) two_ne_zero (unitExponent num den)
  rw [Nat.cast_ofNat] at hscaled
  show ofMagnitude negative _ = x ↔ _
  rw [ofMagnitude_eq_iff hx]
  refine and_congr_right fun _ => ?_
  generalize unitExponent num den = e at hunit hscaled ⊢
  have hdenominator : 0 < den * 2 ^ e.toNat := Nat.mul_pos hden (Nat.two_pow_pos _)
  have hround : ∀ n, roundHalfEven (num * 2 ^ (-e).toNat) (den * 2 ^ e.toNat) = n
      ↔ IsNearestEven ((num : ℚ) / den / 2 ^ e) n := by
    intro n
    rw [roundHalfEven_eq_iff hdenominator, hscaled]
  rw [covers_iff hunit hpos, ← hround, ← hround]
  -- The rounded number of units takes 53 bits, or one more when a power of two is reached.
  have hself := (hround _).mp rfl
  generalize roundHalfEven (num * 2 ^ (-e).toNat) (den * 2 ^ e.toNat) = m at hself ⊢
  have hhalf := abs_le.mp hself.le_half
  have hV : (0 : ℚ) < 2 ^ e := zpow_pos two_pos _
  have hm : m ≤ 2 ^ 53 := by
    have hlt := hunit.lt
    rw [← div_lt_iff₀ hV] at hlt
    have hless : (m : ℚ) < (2 ^ 53 + 1 : Nat) := by
      push_cast
      linarith
    exact Nat.lt_succ_iff.mp (by exact_mod_cast hless)
  have hfull : e = -1074 ∨ 2 ^ 52 ≤ m := by
    refine hunit.full.imp id fun hge => ?_
    rw [← le_div_iff₀ hV] at hge
    have hless : ((2 ^ 52 : Nat) : ℚ) < (m + 1 : Nat) := by
      push_cast
      linarith
    exact Nat.lt_succ_iff.mp (by exact_mod_cast hless)
  have hbits := x.magnitudeBits_eq
  have hsmall := x.significand_lt
  have hfullX := x.full_or_least
  have hge := hunit.ge
  have hgeX := x.exponent_ge
  omega

/-! ## Decimals -/

/-- A numeral of so many digits is a number between two powers of ten. -/
theorem numeral_bounds {n : Nat} (hn : n ≠ 0) :
    10 ^ ((Nat.toDigits 10 n).length - 1) ≤ n ∧ n < 10 ^ (Nat.toDigits 10 n).length := by
  have hlength : 0 < (Nat.toDigits 10 n).length := List.length_pos_iff.mpr Nat.toDigits_ne_nil
  refine ⟨?_, (Nat.length_toDigits_le_iff (by decide) hlength).mp le_rfl⟩
  rcases Nat.eq_or_lt_of_le (Nat.succ_le_of_lt hlength) with hone | hmore
  · rw [← hone]
    exact Nat.pos_of_ne_zero hn
  · by_contra hlt
    have hle := (Nat.length_toDigits_le_iff (b := 10) (n := n) (by decide)
      (by omega : 0 < (Nat.toDigits 10 n).length - 1)).mpr (not_le.mp hlt)
    omega

/-- All doubles lie in a range of powers of ten that is not small. -/
theorem two_pow_lt_ten_pow : (2 : ℚ) ^ 1075 < 10 ^ 400 := by
  have hstep : (2 : ℚ) ^ 43 < 10 ^ 16 := by norm_num
  calc (2 : ℚ) ^ 1075 = (2 ^ 43) ^ 25 := pow_mul 2 43 25
    _ < (10 ^ 16) ^ 25 := pow_lt_pow_left₀ hstep (by positivity) (by decide)
    _ = 10 ^ 400 := (pow_mul 10 16 25).symm

theorem highEnd_le {x : Binary64} (hx : x.isFinite = true) : x.highEnd ≤ 2 ^ 1024 := by
  have hlt : (x.significand : ℚ) + 1 ≤ 2 ^ 53 := by exact_mod_cast x.significand_lt
  have hgreatest : (2 : ℚ) ^ x.exponent ≤ 2 ^ (971 : ℤ) :=
    zpow_le_zpow_right₀ one_le_two (exponent_le hx)
  have hU : (0 : ℚ) < 2 ^ x.exponent := zpow_pos two_pos _
  rw [highEnd_eq]
  calc ((x.significand : ℚ) + 1 / 2) * 2 ^ x.exponent ≤ 2 ^ 53 * 2 ^ x.exponent :=
        mul_le_mul_of_nonneg_right (by linarith) hU.le
    _ ≤ 2 ^ 53 * 2 ^ (971 : ℤ) := mul_le_mul_of_nonneg_left hgreatest (by positivity)
    _ = 2 ^ 1024 := (pow_add 2 53 971).symm

theorem le_lowEnd_of_pos {x : Binary64} (hpos : 0 < x.significand) :
    1 / (2 : ℚ) ^ 1075 ≤ x.lowEnd := by
  have hone : (1 : ℚ) ≤ x.significand := by exact_mod_cast hpos
  have hleast : (2 : ℚ) ^ (-1074 : ℤ) ≤ 2 ^ x.exponent :=
    zpow_le_zpow_right₀ one_le_two x.exponent_ge
  have hU : (0 : ℚ) < 2 ^ (-1074 : ℤ) := zpow_pos two_pos _
  refine le_trans ?_ (le_lowEnd hpos)
  calc 1 / (2 : ℚ) ^ 1075 = 1 / (2 * 2 ^ 1074) := by rw [← pow_succ']
    _ = 1 / 2 * 2 ^ (-1074 : ℤ) := by rw [one_div, one_div, mul_inv, zpow_neg]; rfl
    _ ≤ (x.significand - 1 / 2) * 2 ^ (-1074 : ℤ) :=
        mul_le_mul_of_nonneg_right (by linarith) hU.le
    _ ≤ (x.significand - 1 / 2) * 2 ^ x.exponent :=
        mul_le_mul_of_nonneg_left hleast (by linarith)

/-- The count of digits bounds a decimal from above. -/
theorem decimal_lt {n : Nat} {p k : ℤ} (hn : n ≠ 0) (h : p + (Nat.toDigits 10 n).length ≤ k) :
    (n : ℚ) * 10 ^ p < 10 ^ k := by
  have hten : (0 : ℚ) < 10 ^ p := zpow_pos (by norm_num) _
  calc (n : ℚ) * 10 ^ p < 10 ^ (Nat.toDigits 10 n).length * 10 ^ p :=
        mul_lt_mul_of_pos_right (by exact_mod_cast (numeral_bounds hn).2) hten
    _ = 10 ^ ((Nat.toDigits 10 n).length + p : ℤ) := by
        rw [← zpow_natCast, ← zpow_add₀ (by norm_num)]
    _ ≤ 10 ^ k := zpow_le_zpow_right₀ (by norm_num) (by omega)

/-- The count of digits bounds a decimal from below. -/
theorem le_decimal {n : Nat} {p k : ℤ} (hn : n ≠ 0) (h : k < p + (Nat.toDigits 10 n).length) :
    (10 : ℚ) ^ k ≤ n * 10 ^ p := by
  have hten : (0 : ℚ) < 10 ^ p := zpow_pos (by norm_num) _
  have hlength : 0 < (Nat.toDigits 10 n).length := List.length_pos_iff.mpr Nat.toDigits_ne_nil
  calc (10 : ℚ) ^ k ≤ 10 ^ (((Nat.toDigits 10 n).length - 1 : Nat) + p : ℤ) :=
        zpow_le_zpow_right₀ (by norm_num) (by omega)
    _ = 10 ^ ((Nat.toDigits 10 n).length - 1) * 10 ^ p := by
        rw [zpow_add₀ (by norm_num), zpow_natCast]
    _ ≤ n * 10 ^ p :=
        mul_le_mul_of_nonneg_right (by exact_mod_cast (numeral_bounds hn).1) hten.le

/-- The same for a decimal. -/
theorem ofDecimal_eq_iff {x : Binary64} (hx : x.isFinite = true) (hzero : x.isZero = false)
    {negative : Bool} {n : Nat} {p : ℤ} :
    ofDecimal negative n p = x ↔ x.negative = negative ∧ x.Covers (n * 10 ^ p) := by
  have hpos := significand_pos hzero
  have hne : ∀ s, zero s ≠ x := by
    rintro s rfl
    exact absurd hzero (by simp [isZero, zero])
  by_cases hn : n = 0
  · subst hn
    have hshort : ofDecimal negative 0 p = zero negative := by simp [ofDecimal]
    rw [hshort]
    refine iff_of_false (hne _) fun h => ?_
    exact absurd (h.2.pos hpos) (by simp)
  unfold ofDecimal
  simp only [hn, decide_false, Bool.false_or, decide_eq_true_eq]
  split_ifs with hsmall hlarge
  -- The least number that rounds to a double is far greater than `10 ^ (-400)`.
  · refine iff_of_false (hne _) fun h => ?_
    have hless : (n : ℚ) * 10 ^ p < 10 ^ (-400 : ℤ) := decimal_lt hn hsmall.le
    have hmore : 1 / (2 : ℚ) ^ 1075 ≤ n * 10 ^ p := (le_lowEnd_of_pos hpos).trans h.2.low
    have hfar : (10 : ℚ) ^ (-400 : ℤ) < 1 / 2 ^ 1075 := by
      rw [zpow_neg, ← one_div]
      exact one_div_lt_one_div_of_lt (by positivity) two_pow_lt_ten_pow
    exact absurd (hfar.trans_le hmore) hless.not_gt
  -- The greatest is far less than `10 ^ 400`.
  · refine iff_of_false ?_ fun h => ?_
    · rintro rfl
      exact absurd hx (by simp [infinity, isFinite])
    have hmore : (10 : ℚ) ^ (400 : ℤ) ≤ n * 10 ^ p := le_decimal hn hlarge
    have hless : (n : ℚ) * 10 ^ p ≤ 2 ^ 1024 := h.2.high.trans (highEnd_le hx)
    have hfar : (2 : ℚ) ^ 1024 < 10 ^ (400 : ℤ) :=
      (pow_le_pow_right₀ one_le_two (by decide)).trans_lt two_pow_lt_ten_pow
    exact absurd (hfar.trans_le hmore) hless.not_gt
  · rw [nearest_eq_iff hx hzero (Nat.pow_pos (by decide))]
    have hvalue : ((n * 10 ^ p.toNat : Nat) : ℚ) / (10 ^ (-p).toNat : Nat) = n * 10 ^ p := by
      rw [zpow_eq_div (by norm_num : (10 : ℚ) ≠ 0)]
      push_cast
      rw [mul_div_assoc]
    rw [hvalue]

/-! ## The nearest of all doubles -/

/-- No double is nearer to the number, and of two that are as near it is the even one. Beyond the
greatest double there is none to compare with: the number must stay below the middle between it and
`2 ^ 1024`. -/
structure IsNearest (x : Binary64) (q : ℚ) : Prop where
  nearest : ∀ y : Binary64, y.isFinite = true → |q - x.value| ≤ |q - y.value|
  even_of_tie : ∀ y : Binary64, y.isFinite = true → y.value ≠ x.value →
    |q - y.value| = |q - x.value| → Even x.significand
  inRange : |q| < 2 ^ 1024 - 2 ^ 970

/-- A double of a smaller unit is no greater than the numbers that do without the last bit. -/
theorem magnitude_le_of_exponent_lt {x y : Binary64} (h : y.exponent < x.exponent) :
    y.magnitude ≤ (2 ^ 52 - 1 / 2) * 2 ^ x.exponent := by
  have hlt : (y.significand : ℚ) ≤ 2 ^ 53 - 1 := by
    have hcast : (y.significand : ℚ) + 1 ≤ 2 ^ 53 := by exact_mod_cast y.significand_lt
    linarith
  have hle : (2 : ℚ) ^ y.exponent ≤ 2 ^ (x.exponent - 1) :=
    zpow_le_zpow_right₀ one_le_two (by omega)
  have hstep : (2 : ℚ) ^ x.exponent = 2 * 2 ^ (x.exponent - 1) := by
    rw [← zpow_one_add₀ two_ne_zero]
    congr 1
    omega
  have hV : (0 : ℚ) < 2 ^ y.exponent := zpow_pos two_pos _
  rw [magnitude_eq_significand, hstep]
  calc (y.significand : ℚ) * 2 ^ y.exponent ≤ (2 ^ 53 - 1) * 2 ^ y.exponent :=
        mul_le_mul_of_nonneg_right hlt hV.le
    _ ≤ (2 ^ 53 - 1) * 2 ^ (x.exponent - 1) := mul_le_mul_of_nonneg_left hle (by norm_num)
    _ = (2 ^ 52 - 1 / 2) * (2 * 2 ^ (x.exponent - 1)) := by ring

/-- A double of a unit that is no smaller is a whole number of units. -/
theorem exists_magnitude_eq {x y : Binary64} (h : x.exponent ≤ y.exponent) :
    ∃ k : Nat, y.magnitude = k * 2 ^ x.exponent := by
  refine ⟨y.significand * 2 ^ (y.exponent - x.exponent).toNat, ?_⟩
  have hpower : (2 : ℚ) ^ (y.exponent - x.exponent).toNat * 2 ^ x.exponent = 2 ^ y.exponent := by
    rw [← zpow_natCast, ← zpow_add₀ two_ne_zero]
    congr 1
    omega
  rw [magnitude_eq_significand]
  push_cast
  rw [mul_assoc, hpower]

/-- The upper end is halfway to the next double, or before that. -/
theorem highEnd_le_middle {x y : Binary64} (h : x.magnitude < y.magnitude) :
    2 * x.highEnd ≤ x.magnitude + y.magnitude := by
  have hU : (0 : ℚ) < 2 ^ x.exponent := zpow_pos two_pos _
  rcases lt_or_ge y.exponent x.exponent with hexp | hexp
  · have hle := magnitude_le_of_exponent_lt hexp
    have hbits : (2 ^ 52 : ℚ) ≤ x.significand := by
      exact_mod_cast le_significand (lt_of_le_of_lt y.exponent_ge hexp)
    rw [x.magnitude_eq_significand] at h
    nlinarith
  · obtain ⟨k, hk⟩ := exists_magnitude_eq hexp
    rw [hk, x.magnitude_eq_significand] at h ⊢
    have hless : x.significand + 1 ≤ k := by exact_mod_cast lt_of_mul_lt_mul_right h hU.le
    have hcast : (x.significand : ℚ) + 1 ≤ k := by exact_mod_cast hless
    rw [highEnd_eq]
    nlinarith

/-- The lower end is halfway to the double before, or behind that. -/
theorem middle_le_lowEnd {x y : Binary64} (hpos : 0 < x.significand)
    (h : y.magnitude < x.magnitude) : x.magnitude + y.magnitude ≤ 2 * x.lowEnd := by
  have hU : (0 : ℚ) < 2 ^ x.exponent := zpow_pos two_pos _
  have hlow := le_lowEnd hpos
  rcases lt_or_ge y.exponent x.exponent with hexp | hexp
  · have hle := magnitude_le_of_exponent_lt hexp
    have hleast : -1074 < x.exponent := lt_of_le_of_lt y.exponent_ge hexp
    rw [x.magnitude_eq_significand]
    by_cases hnarrow : x.HasNarrowGap
    · rw [lowEnd_eq_of_narrow hnarrow, hnarrow.1]
      push_cast
      linarith
    · have hbits : 2 ^ 52 + 1 ≤ x.significand :=
        lt_of_le_of_ne (le_significand hleast) fun heq => hnarrow ⟨heq.symm, hleast⟩
      have hcast : (2 ^ 52 + 1 : ℚ) ≤ x.significand := by exact_mod_cast hbits
      nlinarith
  · obtain ⟨k, hk⟩ := exists_magnitude_eq hexp
    rw [hk, x.magnitude_eq_significand] at h ⊢
    have hless : k + 1 ≤ x.significand := by exact_mod_cast lt_of_mul_lt_mul_right h hU.le
    have hcast : (k : ℚ) + 1 ≤ x.significand := by exact_mod_cast hless
    nlinarith

/-- No double is nearer to a number that this one covers, and one as near leaves it even. -/
theorem Covers.abs_sub_le {x : Binary64} {q : ℚ} (h : x.Covers q) (hpos : 0 < x.significand)
    (y : Binary64) :
    |q - x.magnitude| ≤ |q - y.magnitude|
      ∧ (y.magnitude ≠ x.magnitude → |q - y.magnitude| = |q - x.magnitude| →
        Even x.significand) := by
  have hhigh := h.high
  have hlow := h.low
  rcases lt_trichotomy x.magnitude y.magnitude with habove | hsame | hbelow
  · have hmiddle := highEnd_le_middle habove
    have hfar : |q - y.magnitude| = y.magnitude - q := by
      rw [abs_of_nonpos (by linarith)]
      ring
    rw [hfar]
    refine ⟨abs_le.mpr ⟨by linarith, by linarith⟩, fun _ htie => ?_⟩
    rcases abs_cases (q - x.magnitude) with ⟨hside, -⟩ | ⟨hside, -⟩
    · exact h.even (.inr (by linarith))
    · exact absurd htie (by linarith)
  · rw [hsame]
    exact ⟨le_rfl, fun hne => absurd rfl hne⟩
  · have hmiddle := middle_le_lowEnd hpos hbelow
    have hfar : |q - y.magnitude| = q - y.magnitude := abs_of_nonneg (by linarith)
    rw [hfar]
    refine ⟨abs_le.mpr ⟨by linarith, by linarith⟩, fun _ htie => ?_⟩
    rcases abs_cases (q - x.magnitude) with ⟨hside, -⟩ | ⟨hside, -⟩
    · exact absurd htie (by linarith)
    · exact h.even (.inl (by linarith))

/-- A number that rounds to a finite double is below the middle behind the greatest one. -/
theorem Covers.lt_range {x : Binary64} {q : ℚ} (h : x.Covers q) (hx : x.isFinite = true) :
    q < 2 ^ 1024 - 2 ^ 970 := by
  have hgreatest : (2 : ℚ) ^ x.exponent ≤ 2 ^ (971 : ℤ) :=
    zpow_le_zpow_right₀ one_le_two (exponent_le hx)
  have hhalf : (2 : ℚ) ^ (971 : ℤ) = 2 * 2 ^ 970 := by
    have hsplit : (971 : ℤ) = 1 + (970 : Nat) := rfl
    rw [hsplit, zpow_add₀ two_ne_zero, zpow_one, zpow_natCast]
  have hrange : (2 : ℚ) ^ 1024 = 2 ^ 54 * 2 ^ 970 := pow_add 2 54 970
  have hT : (0 : ℚ) < 2 ^ 970 := by positivity
  have hhigh := h.high
  rw [highEnd_eq] at hhigh
  rw [hhalf] at hgreatest
  rw [hrange]
  generalize (2 : ℚ) ^ 970 = T at hgreatest hT ⊢
  have hU : (0 : ℚ) < 2 ^ x.exponent := zpow_pos two_pos _
  -- The greatest significand is odd, so that its upper end does not belong to the interval.
  rcases Nat.lt_or_ge x.significand (2 ^ 53 - 1) with hless | hmore
  · have hcast : (x.significand : ℚ) + 1 ≤ 2 ^ 53 - 1 := by
      have hnat : x.significand + 2 ≤ 2 ^ 53 := by omega
      have hadd : (x.significand : ℚ) + 2 ≤ 2 ^ 53 := by exact_mod_cast hnat
      linarith
    nlinarith
  · have hmost : x.significand = 2 ^ 53 - 1 := by
      have hlt := x.significand_lt
      omega
    have hne : q ≠ x.highEnd := by
      intro hq
      have heven := h.even (.inr hq)
      rw [hmost] at heven
      exact absurd heven (by decide)
    have hlt : q < x.highEnd := lt_of_le_of_ne h.high hne
    rw [highEnd_eq, hmost] at hlt
    have hvalue : (((2 ^ 53 - 1 : Nat) : ℚ) + 1 / 2) = 2 ^ 53 - 1 / 2 := by norm_num
    rw [hvalue] at hlt
    nlinarith

/-- Among numbers of one sign, distances are those without it. -/
theorem abs_signed_sub_value {negative : Bool} {q : ℚ} {y : Binary64} (hy : y.negative = negative) :
    |(if negative then -q else q) - y.value| = |q - y.magnitude| := by
  unfold value
  rw [hy]
  split_ifs
  · rw [neg_sub_neg, abs_sub_comm]
  · rfl

/-- A double on the other side of zero is as far away as both magnitudes together. -/
theorem abs_signed_sub_value_opposite {negative : Bool} {q : ℚ} {y : Binary64} (hq : 0 ≤ q)
    (hy : y.negative ≠ negative) : |(if negative then -q else q) - y.value| = q + y.magnitude := by
  have hmagnitude := y.magnitude_nonneg
  have hflipped : y.negative = !negative := Bool.eq_not_of_ne hy
  unfold value
  rw [hflipped]
  cases negative with
  | false =>
    show |q - -y.magnitude| = _
    rw [sub_neg_eq_add, abs_of_nonneg (by linarith)]
  | true =>
    show |-q - y.magnitude| = _
    rw [abs_of_nonpos (by linarith)]
    ring

theorem abs_signed (negative : Bool) (q : ℚ) : |if negative then -q else q| = |q| := by
  split_ifs
  · exact abs_neg q
  · rfl

theorem value_eq_iff {x y : Binary64} (h : y.negative = x.negative) :
    y.value = x.value ↔ y.magnitude = x.magnitude := by
  unfold value
  rw [h]
  split_ifs
  · exact neg_inj
  · exact Iff.rfl

/-- **A double is the nearest to every number that rounds to it**, the number having its sign. -/
theorem Covers.isNearest {x : Binary64} {q : ℚ} (h : x.Covers q) (hx : x.isFinite = true)
    (hzero : x.isZero = false) : x.IsNearest (if x.negative then -q else q) := by
  have hpos := significand_pos hzero
  have hq := h.pos hpos
  have hzeroMagnitude : x.magnitude ≠ 0 := fun hm => by
    simp [x.magnitude_eq_zero_iff.mp hm] at hzero
  have hnonneg := x.magnitude_nonneg
  have hbeyond : ∀ y : Binary64, |q - y.magnitude| ≤ q + y.magnitude := by
    intro y
    have hy := y.magnitude_nonneg
    exact abs_le.mpr ⟨by linarith, by linarith⟩
  constructor
  · intro y _
    obtain ⟨hle, -⟩ := h.abs_sub_le hpos y
    rw [abs_signed_sub_value rfl]
    by_cases hside : y.negative = x.negative
    · rwa [abs_signed_sub_value hside]
    · rw [abs_signed_sub_value_opposite hq.le hside]
      exact hle.trans (hbeyond y)
  · intro y _ hne htie
    obtain ⟨hle, heven⟩ := h.abs_sub_le hpos y
    rw [abs_signed_sub_value rfl] at htie
    by_cases hside : y.negative = x.negative
    · rw [abs_signed_sub_value hside] at htie
      exact heven (mt (value_eq_iff hside).mpr hne) htie
    -- A double on the other side that is as near is zero.
    · rw [abs_signed_sub_value_opposite hq.le hside] at htie
      have hequal : |q - y.magnitude| = |q - x.magnitude| :=
        le_antisymm ((hbeyond y).trans htie.le) hle
      have hy := y.magnitude_nonneg
      refine heven (fun hm => ?_) hequal
      rcases abs_cases (q - x.magnitude) with ⟨hdistance, -⟩ | ⟨hdistance, -⟩ <;>
        exact hzeroMagnitude (by linarith)
  · rw [abs_signed, abs_of_pos hq]
    exact h.lt_range hx

/-! ## The neighbours of a double -/

theorem magnitudeBits_lt {x : Binary64} (hx : x.isFinite = true) :
    x.magnitudeBits < 2047 * 2 ^ 52 := by
  have hbiased := biased_lt hx
  have hfraction := x.fraction.isLt
  unfold magnitudeBits
  omega

theorem exists_magnitudeBits_eq (negative : Bool) {bits : Nat} (hbits : bits < 2047 * 2 ^ 52) :
    ∃ y : Binary64, y.isFinite = true ∧ y.negative = negative ∧ y.magnitudeBits = bits := by
  refine ⟨⟨negative, Fin.ofNat 2048 (bits / 2 ^ 52), Fin.ofNat (2 ^ 52) bits⟩, ?_, rfl, ?_⟩
  · have hbiased : Fin.ofNat 2048 (bits / 2 ^ 52) ≠ 2047 := by
      intro h
      have hval := congrArg Fin.val h
      simp only [Fin.val_ofNat] at hval
      omega
    simpa [isFinite] using hbiased
  · simp only [magnitudeBits, Fin.val_ofNat]
    omega

/-- The upper end is halfway to the next double, if there is one. -/
theorem exists_next {x : Binary64} (hless : x.magnitudeBits + 1 < 2047 * 2 ^ 52) :
    ∃ y : Binary64, y.isFinite = true ∧ y.negative = x.negative ∧ x.magnitude < y.magnitude
      ∧ x.magnitude + y.magnitude = 2 * x.highEnd := by
  obtain ⟨y, hy, hsign, hbits⟩ := exists_magnitudeBits_eq x.negative hless
  have hU : (0 : ℚ) < 2 ^ x.exponent := zpow_pos two_pos _
  have hxBits := x.magnitudeBits_eq
  have hyBits := y.magnitudeBits_eq
  have hxSmall := x.significand_lt
  have hySmall := y.significand_lt
  have hxFull := x.full_or_least
  have hyFull := y.full_or_least
  have hxGe := x.exponent_ge
  have hyGe := y.exponent_ge
  have hnext : y.magnitude = (x.significand + 1) * 2 ^ x.exponent := by
    rw [magnitude_eq_significand]
    rcases Nat.lt_or_ge (x.significand + 1) (2 ^ 53) with hlt | hge
    · have hexp : y.exponent = x.exponent := by omega
      have hsignificand : y.significand = x.significand + 1 := by omega
      rw [hexp, hsignificand]
      push_cast
      ring
    -- Behind the greatest significand the unit is twice as large.
    · have hexp : y.exponent = x.exponent + 1 := by omega
      have hsignificand : y.significand = 2 ^ 52 := by omega
      have hlast : x.significand = 2 ^ 53 - 1 := by omega
      rw [hexp, hsignificand, hlast, zpow_add_one₀ two_ne_zero]
      push_cast
      ring
  refine ⟨y, hy, hsign, ?_, ?_⟩
  · rw [hnext, magnitude_eq_significand]
    nlinarith
  · rw [hnext, magnitude_eq_significand, highEnd_eq]
    ring

/-- The lower end is halfway to the double before. -/
theorem exists_previous {x : Binary64} (hx : x.isFinite = true) (hpos : 0 < x.significand) :
    ∃ y : Binary64, y.isFinite = true ∧ y.negative = x.negative ∧ y.magnitude < x.magnitude
      ∧ x.magnitude + y.magnitude = 2 * x.lowEnd := by
  have hlast := magnitudeBits_lt hx
  have hless : x.magnitudeBits - 1 < 2047 * 2 ^ 52 := by omega
  obtain ⟨y, hy, hsign, hbits⟩ := exists_magnitudeBits_eq x.negative hless
  have hU : (0 : ℚ) < 2 ^ x.exponent := zpow_pos two_pos _
  have hxBits := x.magnitudeBits_eq
  have hyBits := y.magnitudeBits_eq
  have hxSmall := x.significand_lt
  have hySmall := y.significand_lt
  have hxFull := x.full_or_least
  have hyFull := y.full_or_least
  have hxGe := x.exponent_ge
  have hyGe := y.exponent_ge
  by_cases hnarrow : x.HasNarrowGap
  · have hexp : x.exponent = y.exponent + 1 := by
      obtain ⟨h₁, h₂⟩ := hnarrow
      omega
    have hsignificand : y.significand = 2 ^ 53 - 1 := by
      obtain ⟨h₁, h₂⟩ := hnarrow
      omega
    have hdouble : (2 : ℚ) ^ x.exponent = 2 ^ y.exponent * 2 := by
      rw [hexp, zpow_add_one₀ two_ne_zero]
    rw [magnitude_eq_significand] at *
    rw [lowEnd_eq_of_narrow hnarrow]
    refine ⟨y, hy, hsign, ?_, ?_⟩
    · rw [magnitude_eq_significand, hsignificand, hnarrow.1, hdouble]
      rw [hdouble] at hU
      push_cast
      nlinarith
    · rw [magnitude_eq_significand, hsignificand, hnarrow.1, hdouble]
      push_cast
      ring
  · have hnot : ¬ (x.significand = 2 ^ 52 ∧ -1074 < x.exponent) := hnarrow
    have hexp : y.exponent = x.exponent := by omega
    have hsignificand : x.significand = y.significand + 1 := by omega
    rw [lowEnd_eq_of_not_narrow hnarrow hpos]
    refine ⟨y, hy, hsign, ?_, ?_⟩
    · rw [magnitude_eq_significand, magnitude_eq_significand, hexp, hsignificand]
      push_cast
      nlinarith
    · rw [magnitude_eq_significand, magnitude_eq_significand, hexp, hsignificand]
      push_cast
      ring

/-- The greatest double has no next one. -/
theorem highEnd_eq_range {x : Binary64} (hx : x.isFinite = true)
    (hlast : 2047 * 2 ^ 52 ≤ x.magnitudeBits + 1) : x.highEnd = 2 ^ 1024 - 2 ^ 970 := by
  have hbits := x.magnitudeBits_eq
  have hsmall := x.significand_lt
  have hge := x.exponent_ge
  have hle := exponent_le hx
  have hexp : x.exponent = 970 + 1 := by omega
  have hsignificand : x.significand = 2 ^ 53 - 1 := by omega
  have hrange : (2 : ℚ) ^ 1024 = 2 ^ 54 * 2 ^ 970 := pow_add 2 54 970
  have hhalf : (2 : ℚ) ^ (970 : ℤ) = 2 ^ 970 := zpow_natCast 2 970
  rw [highEnd_eq, hexp, hsignificand, zpow_add_one₀ two_ne_zero, hhalf, hrange]
  generalize (2 : ℚ) ^ 970 = T
  push_cast
  ring

/-- What is no farther from the lesser of two numbers is not beyond their middle. -/
theorem le_middle_of_abs_sub_le {a b q : ℚ} (hab : a < b) (h : |q - a| ≤ |q - b|) :
    2 * q ≤ a + b := by
  have hsquares := sq_le_sq.mpr h
  by_contra hlt
  nlinarith

theorem middle_le_of_abs_sub_le {a b q : ℚ} (hab : a < b) (h : |q - b| ≤ |q - a|) :
    a + b ≤ 2 * q := by
  have hsquares := sq_le_sq.mpr h
  by_contra hlt
  nlinarith

/-- **Only the numbers that round to a double have it as their nearest.** -/
theorem IsNearest.covers {x : Binary64} {q : ℚ} (h : x.IsNearest (if x.negative then -q else q))
    (hx : x.isFinite = true) (hzero : x.isZero = false) : x.Covers q := by
  have hpos := significand_pos hzero
  obtain ⟨below, hbelow, hbelowSign, hless, hlow⟩ := exists_previous hx hpos
  have hnearBelow := h.nearest below hbelow
  rw [abs_signed_sub_value rfl, abs_signed_sub_value hbelowSign] at hnearBelow
  have htieBelow : q = x.lowEnd → Even x.significand := by
    intro hq
    refine h.even_of_tie below hbelow (mt (value_eq_iff hbelowSign).mp hless.ne) ?_
    rw [abs_signed_sub_value rfl, abs_signed_sub_value hbelowSign, abs_of_nonneg (by linarith),
      abs_of_nonpos (by linarith)]
    linarith
  have hmiddleBelow := middle_le_of_abs_sub_le hless hnearBelow
  rcases Nat.lt_or_ge (x.magnitudeBits + 1) (2047 * 2 ^ 52) with hnext | hlast
  · obtain ⟨above, habove, haboveSign, hmore, hhigh⟩ := exists_next hnext
    have hnearAbove := h.nearest above habove
    rw [abs_signed_sub_value rfl, abs_signed_sub_value haboveSign] at hnearAbove
    have hmiddleAbove := le_middle_of_abs_sub_le hmore hnearAbove
    refine ⟨by linarith, by linarith, ?_⟩
    rintro (hq | hq)
    · exact htieBelow hq
    · refine h.even_of_tie above habove (mt (value_eq_iff haboveSign).mp hmore.ne') ?_
      rw [abs_signed_sub_value rfl, abs_signed_sub_value haboveSign, abs_of_nonpos (by linarith),
        abs_of_nonneg (by linarith)]
      linarith
  · have hrange := highEnd_eq_range hx hlast
    have habs := h.inRange
    rw [abs_signed] at habs
    have hq : q < x.highEnd := by
      rw [hrange]
      exact (le_abs_self q).trans_lt habs
    refine ⟨by linarith, hq.le, ?_⟩
    rintro (hlowEnd | hhighEnd)
    · exact htieBelow hlowEnd
    · exact absurd hhighEnd hq.ne

/-- Reading a decimal gives the double that is nearest to it. -/
theorem ofDecimal_eq_iff_isNearest {x : Binary64} (hx : x.isFinite = true)
    (hzero : x.isZero = false) {negative : Bool} {n : Nat} {p : ℤ} :
    ofDecimal negative n p = x
      ↔ x.negative = negative ∧ x.IsNearest (if negative then -(n * 10 ^ p) else n * 10 ^ p) := by
  rw [ofDecimal_eq_iff hx hzero]
  constructor
  · rintro ⟨rfl, h⟩
    exact ⟨rfl, h.isNearest hx hzero⟩
  · rintro ⟨rfl, h⟩
    exact ⟨rfl, h.covers hx hzero⟩

end Binary64

end Gazetteer
