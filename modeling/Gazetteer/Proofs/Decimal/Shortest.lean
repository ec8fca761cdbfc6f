/-
# Gazetteer.Proofs.Decimal.Shortest -- no decimal with fewer digits reads back

The shortest decimal of a double lies in the interval of the numbers that round to the double, on the
coarsest decimal grid that has a point there (`isCoarsest_shortest`). The whole numbers of the search
compare the same numbers as the interval does (`roundsTo_iff`), a point of a grid that rounds to the
double may be moved to one of the two neighbours of the double (`gridPoint?_eq_none_iff`), the first
grid is too coarse to have one, and the last one holds the double itself.

From the coarsest grid follows that no other decimal has fewer digits: a decimal with fewer digits
that rounds to the double has a power of ten between itself and the shortest decimal, and that power
would be a point on a coarser grid (`IsCoarsest.significantDigits_le`).
-/
import Mathlib.Data.List.DropRight
import Gazetteer.Proofs.Decimal.Rounding

namespace Gazetteer.Decimal

open Binary64

variable {x : Binary64}

/-! ## Comparing with the interval -/

/-- The number that a decimal is. -/
def Scaled.value (d : Scaled) : ℚ := d.digits * 10 ^ d.power

/-- Both sides of a comparison are multiplied by the same number. -/
theorem compared_eq (x : Binary64) (d : Scaled) (quarters : Nat) :
    ∃ scale : ℚ, 0 < scale ∧ ((compared x d quarters).1 : ℚ) = d.value * scale
      ∧ ((compared x d quarters).2 : ℚ) = (quarters / 4 * 2 ^ x.exponent) * scale := by
  refine ⟨2 ^ (-(x.exponent - 2)).toNat * 10 ^ (-d.power).toNat, by positivity, ?_, ?_⟩
  · rw [Scaled.value, zpow_eq_div (by norm_num : (10 : ℚ) ≠ 0) d.power]
    simp only [compared]
    push_cast
    field_simp
  · have hquarter : (2 : ℚ) ^ x.exponent = 4 * 2 ^ (x.exponent - 2) := by
      rw [zpow_sub₀ two_ne_zero]
      norm_num
      ring
    rw [hquarter, zpow_eq_div two_ne_zero (x.exponent - 2)]
    simp only [compared]
    push_cast
    field_simp

theorem compared_le_iff (x : Binary64) (d : Scaled) (quarters : Nat) :
    (compared x d quarters).1 ≤ (compared x d quarters).2
      ↔ d.value ≤ quarters / 4 * 2 ^ x.exponent := by
  obtain ⟨scale, hscale, h₁, h₂⟩ := compared_eq x d quarters
  rw [← Nat.cast_le (α := ℚ), h₁, h₂, mul_le_mul_iff_left₀ hscale]

theorem le_compared_iff (x : Binary64) (d : Scaled) (quarters : Nat) :
    (compared x d quarters).2 ≤ (compared x d quarters).1
      ↔ quarters / 4 * 2 ^ x.exponent ≤ d.value := by
  obtain ⟨scale, hscale, h₁, h₂⟩ := compared_eq x d quarters
  rw [← Nat.cast_le (α := ℚ), h₁, h₂, mul_le_mul_iff_left₀ hscale]

theorem roundsTo_iff (x : Binary64) (d : Scaled) : roundsTo x d = true ↔ x.Covers d.value := by
  have hlow := le_compared_iff x d (lowerQuarters x)
  have hlowStrict := (compared_le_iff x d (lowerQuarters x)).not
  have hhigh := compared_le_iff x d (upperQuarters x)
  have hhighStrict := (le_compared_iff x d (upperQuarters x)).not
  rw [not_le, not_le] at hlowStrict hhighStrict
  simp only [roundsTo]
  split_ifs with heven
  · simp only [decide_eq_true_eq, Bool.and_eq_true]
    rw [hlow, hhigh]
    exact ⟨fun h => ⟨h.1, h.2, fun _ => Nat.even_iff.mpr heven⟩, fun h => ⟨h.low, h.high⟩⟩
  · simp only [decide_eq_true_eq, Bool.and_eq_true]
    rw [hlowStrict, hhighStrict]
    have hodd : ¬ Even x.significand := mt Nat.even_iff.mp heven
    constructor
    · rintro ⟨h₁, h₂⟩
      exact ⟨h₁.le, h₂.le, fun h => absurd h (not_or.mpr ⟨h₁.ne', h₂.ne⟩)⟩
    · intro h
      refine ⟨lt_of_le_of_ne h.low fun heq => hodd (h.even (.inl heq.symm)), ?_⟩
      exact lt_of_le_of_ne h.high fun heq => hodd (h.even (.inr heq))

/-! ## Grids -/

/-- A multiple of a power of ten rounds to the double. -/
def OnGrid (x : Binary64) (power : ℤ) : Prop := ∃ n : Nat, x.Covers (n * 10 ^ power)

/-- A finer grid holds all points of a coarser one. -/
theorem OnGrid.finer {p q : ℤ} (h : OnGrid x q) (hle : p ≤ q) : OnGrid x p := by
  obtain ⟨n, hn⟩ := h
  refine ⟨n * 10 ^ (q - p).toNat, ?_⟩
  have hpower : (10 : ℚ) ^ (q - p).toNat * 10 ^ p = 10 ^ q := by
    rw [← zpow_natCast, ← zpow_add₀ (by norm_num)]
    congr 1
    omega
  push_cast
  rwa [mul_assoc, hpower]

/-- The grid of the unit of a double holds the double. -/
theorem onGrid_unit (hpos : 0 < x.significand) : OnGrid x (min x.exponent 0) := by
  have hself := covers_magnitude hpos
  rw [magnitude_eq_significand] at hself
  rcases le_total x.exponent 0 with hle | hge
  · rw [min_eq_left hle]
    refine ⟨x.significand * 5 ^ (-x.exponent).toNat, ?_⟩
    have hpower : (5 : ℚ) ^ (-x.exponent).toNat * 10 ^ x.exponent = 2 ^ x.exponent := by
      have hten : (10 : ℚ) ^ x.exponent = 2 ^ x.exponent * 5 ^ x.exponent := by
        rw [← mul_zpow]
        norm_num
      rw [hten, ← zpow_natCast, mul_left_comm, ← zpow_add₀ (by norm_num)]
      have hcancel : ((-x.exponent).toNat : ℤ) + x.exponent = 0 := by omega
      rw [hcancel, zpow_zero, mul_one]
    push_cast
    rwa [mul_assoc, hpower]
  · rw [min_eq_right hge]
    refine ⟨x.significand * 2 ^ x.exponent.toNat, ?_⟩
    have hpower : (2 : ℚ) ^ x.exponent.toNat = 2 ^ x.exponent := by
      rw [← zpow_natCast]
      congr 1
      omega
    push_cast
    rwa [hpower, mul_one]

/-- The neighbours of a double on a grid. -/
theorem overGrid_bounds (x : Binary64) (power : ℤ) :
    (((overGrid x power).1 / (overGrid x power).2 : Nat) : ℚ) * 10 ^ power ≤ x.magnitude
      ∧ x.magnitude ≤ (((overGrid x power).1 / (overGrid x power).2 + 1 : Nat) : ℚ) * 10 ^ power := by
  have hten : (0 : ℚ) < 10 ^ power := zpow_pos (by norm_num) _
  have hquotient := scaled_div x.numerator x.denominator (b := 10) (by decide) power
  rw [← magnitude_eq_div, Nat.cast_ofNat, eq_div_iff hten.ne'] at hquotient
  have hden : 0 < (overGrid x power).2 :=
    Nat.mul_pos x.denominator_pos (Nat.pow_pos (by decide))
  have hdenCast : (0 : ℚ) < (overGrid x power).2 := by exact_mod_cast hden
  rw [← hquotient]
  constructor
  · refine mul_le_mul_of_nonneg_right ((le_div_iff₀ hdenCast).mpr ?_) hten.le
    exact_mod_cast Nat.div_mul_le_self _ _
  · refine mul_le_mul_of_nonneg_right ((div_le_iff₀ hdenCast).mpr ?_) hten.le
    exact_mod_cast (Nat.lt_mul_of_div_lt (Nat.lt_succ_self _) hden).le

/-- A grid has no point exactly if neither neighbour of the double rounds to it. -/
theorem gridPoint?_eq_none_iff (hpos : 0 < x.significand) (power : ℤ) :
    gridPoint? x power = none ↔ ¬ OnGrid x power := by
  have hten : (0 : ℚ) < 10 ^ power := zpow_pos (by norm_num) _
  have hself := covers_magnitude hpos
  obtain ⟨hbelow, habove⟩ := overGrid_bounds x power
  have hiff : gridPoint? x power = none
      ↔ ¬ x.Covers (((overGrid x power).1 / (overGrid x power).2 : Nat) * 10 ^ power)
        ∧ ¬ x.Covers (((overGrid x power).1 / (overGrid x power).2 + 1 : Nat) * 10 ^ power) := by
    have h₁ := roundsTo_iff x ⟨(overGrid x power).1 / (overGrid x power).2, power⟩
    have h₂ := roundsTo_iff x ⟨(overGrid x power).1 / (overGrid x power).2 + 1, power⟩
    simp only [Scaled.value] at h₁ h₂
    rw [← h₁, ← h₂]
    simp only [gridPoint?]
    split <;> simp_all
    split <;> simp
  rw [hiff]
  constructor
  · rintro ⟨hnotBelow, hnotAbove⟩ ⟨n, hn⟩
    rcases Nat.lt_or_ge ((overGrid x power).1 / (overGrid x power).2) n with hlt | hle
    · refine hnotAbove (hself.between hn habove (mul_le_mul_of_nonneg_right ?_ hten.le))
      exact_mod_cast hlt
    · refine hnotBelow (hn.between hself (mul_le_mul_of_nonneg_right ?_ hten.le) hbelow)
      exact_mod_cast hle
  · exact fun h => ⟨fun hb => h ⟨_, hb⟩, fun ha => h ⟨_, ha⟩⟩

theorem covers_of_gridPoint? {power : ℤ} {d : Scaled} (h : gridPoint? x power = some d) :
    d.power = power ∧ x.Covers d.value := by
  simp only [gridPoint?] at h
  split at h
  · split_ifs at h
    · cases h
      exact ⟨rfl, (roundsTo_iff x _).mp ‹_›⟩
    · cases h
      exact ⟨rfl, (roundsTo_iff x _).mp ‹_›⟩
  · cases h
    exact ⟨rfl, (roundsTo_iff x _).mp ‹_›⟩
  · cases h
    exact ⟨rfl, (roundsTo_iff x _).mp ‹_›⟩
  · cases h

/-! ## The search -/

/-- The decimal rounds to the double, and no multiple of ten times its power of ten does. -/
structure IsCoarsest (x : Binary64) (d : Scaled) : Prop where
  covers : x.Covers d.value
  not_onGrid : ¬ OnGrid x (d.power + 1)

/-- A search that starts on a grid without a point and ends on one with a point finds the coarsest
that has one. -/
theorem isCoarsest_searchGrids (hpos : 0 < x.significand) {steps : Nat} {power : ℤ}
    (hstart : ¬ OnGrid x (power + 1)) (hend : OnGrid x (power - steps)) :
    IsCoarsest x (searchGrids x (steps + 1) power) := by
  induction steps generalizing power with
  | zero =>
    rw [Nat.cast_zero, sub_zero] at hend
    rw [searchGrids]
    cases hpoint : gridPoint? x power with
    | none => exact absurd hend ((gridPoint?_eq_none_iff hpos power).mp hpoint)
    | some d =>
      obtain ⟨rfl, hcovers⟩ := covers_of_gridPoint? hpoint
      exact ⟨hcovers, hstart⟩
  | succ steps ih =>
    rw [searchGrids]
    cases hpoint : gridPoint? x power with
    | none =>
      refine ih ?_ ?_
      · rw [sub_add_cancel]
        exact (gridPoint?_eq_none_iff hpos power).mp hpoint
      · convert hend using 1
        push_cast
        ring
    | some d =>
      obtain ⟨rfl, hcovers⟩ := covers_of_gridPoint? hpoint
      exact ⟨hcovers, hstart⟩

/-- The estimated power of ten is no less than the power of two, in the range of the doubles. -/
theorem two_zpow_le {size : ℤ} (hmin : -1073 ≤ size) (hmax : size ≤ 1024) :
    (2 : ℚ) ^ size ≤ 10 ^ ((size * 30103).fdiv 100000 + 1) := by
  have habove : ∀ n < 1025, 2 ^ n ≤ 10 ^ (n * 30103 / 100000 + 1) := by decide +kernel
  have hbelow : ∀ n < 1074, 10 ^ ((n * 30103 - 1) / 100000) ≤ 2 ^ n := by decide +kernel
  rw [Int.fdiv_eq_ediv_of_nonneg _ (by decide)]
  rcases Int.eq_nat_or_neg size with ⟨n, rfl | rfl⟩
  · have hpower : (n : ℤ) * 30103 / 100000 + 1 = (n * 30103 / 100000 + 1 : Nat) := by omega
    rw [hpower, zpow_natCast, zpow_natCast]
    exact_mod_cast habove n (by omega)
  · rcases Nat.eq_zero_or_pos n with rfl | hn
    · norm_num
    have hpower : -(n : ℤ) * 30103 / 100000 + 1 = -((n * 30103 - 1) / 100000 : Nat) := by omega
    rw [hpower, zpow_neg, zpow_neg, zpow_natCast, zpow_natCast]
    refine inv_anti₀ (by positivity) ?_
    exact_mod_cast hbelow n (by omega)

/-- The search starts above all numbers that round to the double. -/
theorem not_onGrid_startPower (hx : x.isFinite = true) (hpos : 0 < x.significand) :
    ¬ OnGrid x (startPower x) := by
  rintro ⟨n, hn⟩
  have hbits : x.significand.log2 < 53 := (Nat.log2_lt hpos.ne').mpr x.significand_lt
  have hlength : (x.significand : ℚ) + 1 ≤ 2 ^ (x.significand.log2 + 1) := by
    exact_mod_cast Nat.lt_log2_self
  have hge := x.exponent_ge
  have hle := exponent_le hx
  have hU : (0 : ℚ) < 2 ^ x.exponent := zpow_pos two_pos _
  have hten : (0 : ℚ) < 10 ^ startPower x := zpow_pos (by norm_num) _
  have hless : x.highEnd < 10 ^ startPower x := by
    calc x.highEnd = (x.significand + 1 / 2) * 2 ^ x.exponent := x.highEnd_eq
      _ < 2 ^ (x.significand.log2 + 1) * 2 ^ x.exponent :=
          mul_lt_mul_of_pos_right (by linarith) hU
      _ = 2 ^ ((x.significand.log2 : ℤ) + 1 + x.exponent) := by
          rw [zpow_add₀ two_ne_zero]
          norm_cast
      _ ≤ 10 ^ startPower x := two_zpow_le (by omega) (by omega)
  -- Only zero is below the power of ten, and it does not round to the double.
  have hzero : n = 0 := by
    by_contra hne
    have hone : (1 : ℚ) ≤ n := by exact_mod_cast Nat.one_le_iff_ne_zero.mpr hne
    have hhigh := hn.high
    nlinarith
  have hcovered := hn.pos hpos
  simp [hzero] at hcovered

/-- The shortest decimal of a double is on the coarsest grid. -/
theorem isCoarsest_shortest (hx : x.isFinite = true) (hpos : 0 < x.significand) :
    IsCoarsest x (shortest x) := by
  have hstart := not_onGrid_startPower hx hpos
  refine isCoarsest_searchGrids hpos (fun h => hstart (h.finer (by omega))) ?_
  exact (onGrid_unit hpos).finer (by omega)

/-! ## Significant digits -/

/-- How many digits a number has from its first to its last one that is not zero. -/
def significantDigits (n : Nat) : Nat := ((Text.numeral n).rdropWhile (· == '0')).length

theorem numeral_mul_ten {n : Nat} (hn : 0 < n) :
    Text.numeral (n * 10) = Text.numeral n ++ ['0'] := by
  unfold Text.numeral
  rw [Nat.toDigits_of_base_le (by decide) (by omega), Nat.mul_div_cancel _ (by decide),
    Nat.mul_mod_left]
  rfl

theorem getLast?_numeral (n : Nat) : (Text.numeral n).getLast? = some (n % 10).digitChar := by
  unfold Text.numeral
  rcases Nat.lt_or_ge n 10 with hlt | hge
  · rw [Nat.toDigits_of_lt_base hlt, Nat.mod_eq_of_lt hlt]
    rfl
  · rw [Nat.toDigits_of_base_le (by decide) hge]
    simp

theorem significantDigits_mul_ten (n : Nat) : significantDigits (n * 10) = significantDigits n := by
  rcases Nat.eq_zero_or_pos n with rfl | hn
  · rfl
  · rw [significantDigits, numeral_mul_ten hn, List.rdropWhile_concat_pos _ _ _ (by decide)]
    rfl

theorem significantDigits_mul_pow (n k : Nat) :
    significantDigits (n * 10 ^ k) = significantDigits n := by
  induction k with
  | zero => rw [pow_zero, mul_one]
  | succ k ih => rw [pow_succ, ← mul_assoc, significantDigits_mul_ten, ih]

theorem significantDigits_eq_length {n : Nat} (hn : n % 10 ≠ 0) :
    significantDigits n = (Text.numeral n).length := by
  have hne : Text.numeral n ≠ [] := Nat.toDigits_ne_nil
  rw [significantDigits, List.rdropWhile_eq_self_iff.mpr]
  intro hnil
  have hlast := getLast?_numeral n
  rw [List.getLast?_eq_some_getLast hne, Option.some.injEq] at hlast
  have hchar : (n % 10).digitChar ≠ '0' := fun h => hn (Nat.digitChar_eq_zero.mp h)
  simpa [hlast] using hchar

/-- A number is one that does not end in zero times a power of ten. -/
theorem exists_mul_pow {n : Nat} (hn : 0 < n) : ∃ a k, n = a * 10 ^ k ∧ a % 10 ≠ 0 := by
  induction n using Nat.strongRecOn with
  | ind n ih =>
    by_cases hlast : n % 10 = 0
    · obtain ⟨a, k, htenth, ha⟩ := ih (n / 10) (by omega) (by omega)
      refine ⟨a, k + 1, ?_, ha⟩
      rw [pow_succ, ← mul_assoc, ← htenth]
      omega
    · exact ⟨n, 0, by rw [pow_zero, mul_one], hlast⟩

/-! ## The fewest digits -/

/-- A decimal on the coarsest grid does not end in zero. -/
theorem IsCoarsest.mod_ne_zero {d : Scaled} (h : IsCoarsest x d) : d.digits % 10 ≠ 0 := by
  intro hzero
  refine h.not_onGrid ⟨d.digits / 10, ?_⟩
  have hcovers := h.covers
  obtain ⟨m, hm⟩ := Nat.dvd_of_mod_eq_zero hzero
  have hvalue : d.value = (m : ℚ) * 10 ^ (d.power + 1) := by
    rw [Scaled.value, hm, zpow_add_one₀ (by norm_num)]
    push_cast
    ring
  rw [hm, Nat.mul_div_cancel_left _ (by decide)]
  rwa [hvalue] at hcovers

/-- **No decimal with fewer digits rounds to the double.** -/
theorem IsCoarsest.significantDigits_le {d : Scaled} (h : IsCoarsest x d)
    (hpos : 0 < x.significand) {n : Nat} {p : ℤ} (hn : x.Covers (n * 10 ^ p)) :
    significantDigits d.digits ≤ significantDigits n := by
  have hnonzero : n ≠ 0 := by
    rintro rfl
    have hcovered := hn.pos hpos
    simp at hcovered
  obtain ⟨a, k, rfl, ha⟩ := exists_mul_pow (Nat.pos_of_ne_zero hnonzero)
  rw [significantDigits_mul_pow, significantDigits_eq_length h.mod_ne_zero,
    significantDigits_eq_length ha]
  have hcovers : x.Covers (a * 10 ^ (p + k)) := by
    rw [zpow_add₀ (by norm_num), zpow_natCast, mul_comm ((10 : ℚ) ^ p), ← mul_assoc]
    exact_mod_cast hn
  have hgrid : p + k ≤ d.power := by
    by_contra hlt
    exact h.not_onGrid (OnGrid.finer ⟨a, hcovers⟩ (by omega))
  by_contra hfewer
  have haZero : a ≠ 0 := fun h0 => by simp [h0] at ha
  have hdZero : d.digits ≠ 0 := fun h0 => h.mod_ne_zero (by rw [h0])
  have haLength := (numeral_bounds haZero).2
  have hdLength := (numeral_bounds hdZero).1
  have hlength : 0 < (Text.numeral a).length := List.length_pos_iff.mpr Nat.toDigits_ne_nil
  unfold Text.numeral at hfewer hlength
  -- The least number of as many digits as the shortest decimal has lies between the two.
  set da := (Nat.toDigits 10 a).length with hda
  set dd := (Nat.toDigits 10 d.digits).length with hdd
  have hten : ∀ e : ℤ, (0 : ℚ) < 10 ^ e := fun e => zpow_pos (by norm_num) e
  have hlow : (a : ℚ) * 10 ^ (p + k) ≤ (10 ^ (dd - 2) : Nat) * 10 ^ (d.power + 1) := by
    calc (a : ℚ) * 10 ^ (p + k) ≤ 10 ^ da * 10 ^ (p + k) :=
          mul_le_mul_of_nonneg_right (by exact_mod_cast haLength.le) (hten _).le
      _ = 10 ^ ((da : ℤ) + (p + k)) := by rw [zpow_add₀ (by norm_num) (da : ℤ), zpow_natCast]
      _ ≤ 10 ^ ((dd - 2 : Nat) + (d.power + 1)) :=
          zpow_le_zpow_right₀ (by norm_num) (by omega)
      _ = (10 ^ (dd - 2) : Nat) * 10 ^ (d.power + 1) := by
          rw [zpow_add₀ (by norm_num), zpow_natCast]
          push_cast
          rfl
  have hhigh : ((10 ^ (dd - 2) : Nat) : ℚ) * 10 ^ (d.power + 1) ≤ d.value := by
    have hstep : 10 ^ (dd - 1) = 10 ^ (dd - 2) * 10 := by
      rw [← pow_succ]
      congr 1
      omega
    have hle : ((10 ^ (dd - 2) * 10 : Nat) : ℚ) ≤ d.digits := by exact_mod_cast hstep ▸ hdLength
    rw [Scaled.value, zpow_add_one₀ (by norm_num), mul_comm ((10 : ℚ) ^ d.power), ← mul_assoc]
    refine mul_le_mul_of_nonneg_right ?_ (hten _).le
    exact_mod_cast hle
  exact h.not_onGrid ⟨_, hcovers.between h.covers hlow hhigh⟩

end Gazetteer.Decimal
