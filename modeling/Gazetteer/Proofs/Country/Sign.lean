/-
# Gazetteer.Proofs.Country.Sign -- where the minus sign of an amount stands

Turning an amount over changes its sign and nothing else: its digits are made of its distance from
zero. So the text of the negative amount is that of the positive one with a minus sign in front, also
where the digits are all zeros. An infinite amount in a currency is the exception: the symbol stands
before the whole of the plain number, and so before its sign.
-/
import Gazetteer.Country.Currency

namespace Gazetteer

/-! ## Turning a double over -/

namespace Binary64

/-- Greater than zero, the infinity included. -/
def isAboveZero (x : Binary64) : Bool := !x.negative && !x.isNaN && !x.isZero

/-- The double on the other side of zero. -/
def negated (x : Binary64) : Binary64 := { x with negative := !x.negative }

variable {x : Binary64}

theorem isFinite_negated : x.negated.isFinite = x.isFinite := rfl

theorem isNaN_negated : x.negated.isNaN = x.isNaN := rfl

theorem isZero_negated : x.negated.isZero = x.isZero := rfl

theorem negative_of_isAboveZero (h : x.isAboveZero = true) : x.negative = false := by
  simp only [isAboveZero, Bool.and_eq_true, Bool.not_eq_true'] at h
  exact h.1.1

theorem isNaN_of_isAboveZero (h : x.isAboveZero = true) : x.isNaN = false := by
  simp only [isAboveZero, Bool.and_eq_true, Bool.not_eq_true'] at h
  exact h.1.2

theorem isZero_of_isAboveZero (h : x.isAboveZero = true) : x.isZero = false := by
  simp only [isAboveZero, Bool.and_eq_true, Bool.not_eq_true'] at h
  exact h.2

theorem isBelowZero_of_isAboveZero (h : x.isAboveZero = true) : x.isBelowZero = false := by
  simp [isBelowZero, negative_of_isAboveZero h]

theorem negative_negated (h : x.isAboveZero = true) : x.negated.negative = true := by
  rw [negated, negative_of_isAboveZero h]
  rfl

theorem isBelowZero_negated (h : x.isAboveZero = true) : x.negated.isBelowZero = true := by
  simp [isBelowZero, negative_negated h, isNaN_negated, isZero_negated, isNaN_of_isAboveZero h,
    isZero_of_isAboveZero h]

end Binary64

/-! ## The same digits -/

namespace Decimal

variable {x : Binary64}

/-- The digits of an amount are made of its distance from zero. -/
theorem fixedUnits_negated (digits : Nat) : fixedUnits x.negated digits = fixedUnits x digits := rfl

theorem gridPoint?_negated (power : Int) : gridPoint? x.negated power = gridPoint? x power := rfl

theorem searchGrids_negated (steps : Nat) (power : Int) :
    searchGrids x.negated steps power = searchGrids x steps power := by
  induction steps generalizing power with
  | zero => rfl
  | succ steps ih =>
    rw [searchGrids, searchGrids, gridPoint?_negated]
    cases gridPoint? x power with
    | some d => rfl
    | none => exact ih (power - 1)

theorem shortest_negated : shortest x.negated = shortest x :=
  searchGrids_negated _ (startPower x)

end Decimal

namespace Currency

open Binary64

variable {x : Binary64}

/-! ## The text of an amount -/

/-- The plain number has its minus sign in front, be it finite or not. -/
theorem plainNumber_negated (hx : x.isAboveZero = true) :
    plainNumber x.negated = '-' :: plainNumber x := by
  simp only [plainNumber, isNaN_negated, isZero_negated, isFinite_negated, negative_negated hx,
    Decimal.shortest_negated, isNaN_of_isAboveZero hx, isZero_of_isAboveZero hx,
    negative_of_isAboveZero hx, Bool.false_eq_true, if_true, if_false, List.nil_append,
    List.singleton_append]

/-- The minus sign is a part of its own in front of the others. -/
theorem finiteParts_negated (hx : x.isAboveZero = true) (symbol : Text) (digits : Nat) :
    finiteParts x.negated symbol digits = ⟨.minusSign, "-"⟩ :: finiteParts x symbol digits := by
  simp only [finiteParts, Decimal.fixedUnits_negated, isBelowZero_negated hx,
    isBelowZero_of_isAboveZero hx, Bool.false_eq_true, if_true, if_false, List.nil_append,
    List.cons_append]
  rfl

/-- The text of an infinite amount in a currency. -/
theorem formatWith_infinite {c : Country} (hcurrency : Text.nonBlank? c.currency ≠ none)
    (hx : x.isFinite = false) (f : Format) : formatWith x c f = c.symbol ++ plainNumber x := by
  obtain ⟨code, hcode⟩ := Option.ne_none_iff_exists'.mp hcurrency
  simp [formatWith, partsWith, hcode, hx]

/-! ## The sign in front -/

/-- A sign behind a text may as well stand in front of it only if the text is made of that sign. -/
theorem append_sign_eq_iff {sign : Char} {t rest : Text} :
    t ++ sign :: rest = sign :: (t ++ rest) ↔ ∀ ch ∈ t, ch = sign := by
  induction t with
  | nil => simp
  | cons ch t ih =>
    rw [List.forall_mem_cons, List.cons_append, List.cons_append, List.cons.injEq]
    constructor
    · rintro ⟨rfl, h⟩
      exact ⟨rfl, ih.mp h⟩
    · rintro ⟨rfl, h⟩
      exact ⟨rfl, ih.mpr h⟩

/-- **A negative amount shows its sign first, unless it is infinite and has a symbol.** For an amount
above zero the text of its negative is its own text with a minus sign in front, exactly where the
amount is finite, the country has no currency, or the symbol is no other text than minus signs. An
infinite amount in a currency has its sign behind the symbol. -/
theorem formatWith_negated (hx : x.isAboveZero = true) (c : Country) (f : Format) :
    (formatWith x.negated c f = '-' :: formatWith x c f
        ↔ x.isFinite = true ∨ Text.nonBlank? c.currency = none ∨ ∀ ch ∈ c.symbol, ch = '-')
      ∧ (x.isFinite = false → Text.nonBlank? c.currency ≠ none →
        formatWith x c f = c.symbol ++ "Infinity"
          ∧ formatWith x.negated c f = c.symbol ++ "-Infinity") := by
  have hinfinite : x.isFinite = false → Text.nonBlank? c.currency ≠ none →
      formatWith x c f = c.symbol ++ "Infinity"
        ∧ formatWith x.negated c f = c.symbol ++ "-Infinity" := by
    intro hfinite hcurrency
    have hplain : plainNumber x = "Infinity" := by
      simp [plainNumber, isNaN_of_isAboveZero hx, isZero_of_isAboveZero hx,
        negative_of_isAboveZero hx, hfinite]
    have hturned : x.negated.isFinite = false := hfinite
    rw [formatWith_infinite hcurrency hfinite, formatWith_infinite hcurrency hturned,
      plainNumber_negated hx, hplain]
    exact ⟨rfl, rfl⟩
  refine ⟨?_, hinfinite⟩
  cases hcurrency : Text.nonBlank? c.currency with
  | none => simp [formatWith, partsWith, hcurrency, plainNumber_negated hx]
  | some code =>
    have hne : Text.nonBlank? c.currency ≠ none := by simp [hcurrency]
    cases hfinite : x.isFinite with
    | true =>
      have hturned : x.negated.isFinite = true := hfinite
      simp [formatWith, partsWith, hcurrency, hfinite, hturned, finiteParts_negated hx]
    | false =>
      obtain ⟨hshown, hturned⟩ := hinfinite hfinite hne
      rw [hshown, hturned]
      have hsign : c.symbol ++ "-Infinity".toList = c.symbol ++ '-' :: "Infinity".toList := rfl
      rw [hsign, append_sign_eq_iff]
      simp

/-- An amount that rounds to zero keeps its sign; an infinite one has it behind the symbol. -/
theorem formatWith_negated_roundedToZero :
    let c : Country := { currency := some "USD", currencySymbol := some "$" }
    let small : Binary64 := .ofBits 0x3F50624DD2F1A9FC
    let infinite : Binary64 := .infinity false
    small.isAboveZero = true ∧ infinite.isAboveZero = true
      ∧ formatWith small c {} = "$0.00" ∧ formatWith small.negated c {} = "-$0.00"
      ∧ formatWith infinite.negated c {} = "$-Infinity"
      ∧ formatWith infinite.negated c {} ≠ '-' :: formatWith infinite c {} := by
  intro c small infinite
  have hsmall : small.isAboveZero = true := by decide
  have hlarge : infinite.isAboveZero = true := by decide
  have hshown : formatWith small c {} = "$0.00" := by decide +kernel
  obtain ⟨hfront, -⟩ := formatWith_negated hsmall c {}
  obtain ⟨hfrontOfLarge, hinfinite⟩ := formatWith_negated hlarge c {}
  refine ⟨hsmall, hlarge, hshown, ?_, (hinfinite (by decide) (by decide)).2, ?_⟩
  · rw [hfront.mpr (.inl (by decide)), hshown]
    rfl
  · rw [ne_eq, hfrontOfLarge]
    decide

end Currency

end Gazetteer
