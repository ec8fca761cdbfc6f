/-
# Gazetteer.Proofs.Pattern.DigitBlind -- patterns that do not tell one digit from another

A pattern whose tests give one answer for all ten ASCII digits reads a text only up to its digits:
it accepts a number exactly if it accepts the number with zeros in place of all digits. What such a
pattern says about all the numbers of one length is then settled by a single text of zeros.

`blur` puts the zeros. It keeps what else a pattern can see of a text, which is the white space at
the ends, the line feeds, the word characters and the length.
-/
import Gazetteer.Pattern.Stored
import Gazetteer.Proofs.Text.Chars

namespace Gazetteer.Pattern

/-! ## Blurred texts -/

/-- Puts a zero in place of a digit. -/
def blurChar (c : Char) : Char := if c.isDigit then '0' else c

/-- Puts zeros in place of all digits. -/
def blur (t : Text) : Text := t.map blurChar

@[simp] theorem length_blur (t : Text) : (blur t).length = t.length := List.length_map _

/-- A text of digits blurs to zeros. -/
theorem blur_digits {t : Text} (h : ∀ c ∈ t, c.isDigit = true) :
    blur t = List.replicate t.length '0' := by
  rw [List.eq_replicate_iff]
  refine ⟨length_blur t, fun c hc => ?_⟩
  obtain ⟨d, hd, rfl⟩ := List.mem_map.mp hc
  rw [blurChar, if_pos (h d hd)]

/-! ## What does not see which digit it is -/

/-- A function of characters that gives one answer for all ASCII digits. -/
def DigitBlind {α : Type} (f : Char → α) : Prop := ∀ c, c.isDigit = true → f c = f '0'

theorem DigitBlind.apply_blurChar {α : Type} {f : Char → α} (h : DigitBlind f) (c : Char) :
    f (blurChar c) = f c := by
  unfold blurChar
  split
  · rename_i hdigit
    exact (h c hdigit).symm
  · rfl

theorem digitBlind_isBlankChar : DigitBlind Text.isBlankChar := by
  intro c hdigit
  have hrange := Text.isDigit_iff.mp hdigit
  exact Text.isBlankChar_eq_false (by omega)

/-- All digits are word characters. -/
theorem digitBlind_isWordChar : DigitBlind Text.isWordChar := by
  intro c hdigit
  have hrange := Text.isDigit_iff.mp hdigit
  have halphanum : c.isAlphanum = true := Text.isAlphanum_iff.mpr (Or.inr hrange)
  show Text.isWordChar c = true
  unfold Text.isWordChar
  rw [if_pos (by omega), halphanum, Bool.true_or]

/-- No digit is a line feed. -/
theorem digitBlind_newline : DigitBlind (· == '\n') := by
  intro c hdigit
  have hne : c ≠ '\n' := by
    rintro rfl
    exact absurd hdigit (by decide)
  exact beq_eq_false_iff_ne.mpr hne

/-- It is enough to ask a function about the ten digits. -/
theorem digitBlind_iff {α : Type} [DecidableEq α] {f : Char → α} :
    DigitBlind f ↔ ∀ c ∈ "0123456789".toList, f c = f '0' := by
  have hdigits : ∀ c ∈ "0123456789".toList, c.isDigit = true := by decide
  exact ⟨fun h c hc => h c (hdigits c hc), fun h c hc => h c (Text.mem_of_isDigit hc)⟩

instance {α : Type} [DecidableEq α] (f : Char → α) : Decidable (DigitBlind f) :=
  decidable_of_iff' _ digitBlind_iff

/-! ## Conditions on a place -/

theorem isWord_blur (c : Option Char) : isWord (c.map blurChar) = isWord c := by
  cases c with
  | none => rfl
  | some c => exact digitBlind_isWordChar.apply_blurChar c

theorem newline_blur (c : Option Char) : (c.map blurChar == some '\n') = (c == some '\n') := by
  cases c with
  | none => rfl
  | some c => exact digitBlind_newline.apply_blurChar c

/-- No condition tells one digit from another. -/
theorem Anchor.holds_blur (a : Anchor) (before after : Option Char) :
    a.holds (before.map blurChar) (after.map blurChar) = a.holds before after := by
  cases a <;> simp only [Anchor.holds, Option.isNone_map, isWord_blur, newline_blur]

theorem neighbours_blur (t : Text) :
    neighbours (blur t)
      = (neighbours t).map (fun (before, after) => (before.map blurChar, after.map blurChar)) := by
  have hbefore : none :: (blur t).map some = (none :: t.map some).map (Option.map blurChar) := by
    simp [blur]
  have hafter : (blur t).map some ++ [none] = (t.map some ++ [none]).map (Option.map blurChar) := by
    simp [blur]
  unfold neighbours
  rw [hbefore, hafter, List.zip_map]
  rfl

/-! ## Runs -/

/-- All tests of a pattern give one answer for the ten digits. -/
def Regex.DigitBlind : Regex → Prop
  | .empty => True
  | .one test => Pattern.DigitBlind test
  | .anchor _ => True
  | .sequence a b | .alternation a b => a.DigitBlind ∧ b.DigitBlind
  | .repetition _ _ body => body.DigitBlind

instance : DecidablePred Regex.DigitBlind :=
  let rec decide : (r : Regex) → Decidable r.DigitBlind
    | .empty | .anchor _ => inferInstanceAs (Decidable True)
    | .one test => inferInstanceAs (Decidable (Pattern.DigitBlind test))
    | .sequence a b | .alternation a b =>
      have := decide a
      have := decide b
      inferInstanceAs (Decidable (_ ∧ _))
    | .repetition _ _ body => decide body
  decide

theorem advance_blur {test : Char → Bool} (h : DigitBlind test) (t : Text) (m : Marks) :
    m.advance test (blur t) = m.advance test t := by
  unfold Marks.advance blur
  rw [List.zipWith_map_right]
  simp only [h.apply_blurChar]

theorem atAnchor_blur (a : Anchor) (t : Text) (m : Marks) :
    m.atAnchor a (blur t) = m.atAnchor a t := by
  unfold Marks.atAnchor
  rw [neighbours_blur, List.zipWith_map_right]
  simp only [Anchor.holds_blur]

/-- **A digit-blind pattern runs over a blurred text as over the text itself.** -/
theorem Regex.run_blur {r : Regex} (h : r.DigitBlind) (t : Text) (m : Marks) :
    r.run (blur t) m = r.run t m := by
  induction r generalizing m with
  | empty => rfl
  | one test => exact advance_blur h t m
  | anchor a => exact atAnchor_blur a t m
  | sequence a b iha ihb =>
    unfold Regex.run
    rw [iha h.1, ihb h.2]
  | alternation a b iha ihb =>
    unfold Regex.run
    rw [iha h.1, ihb h.2]
  | repetition least most body ih =>
    -- A repetition goes round as often as the text is long, and that is the same for both.
    have hround : (fun m => body.run (blur t) m) = fun m => body.run t m := funext (ih h)
    unfold Regex.run
    rw [hround, length_blur]

theorem Regex.search_blur {r : Regex} (h : r.DigitBlind) (t : Text) :
    r.search (blur t) = r.search t := by
  unfold Regex.search
  rw [length_blur, run_blur h]

/-! ## Stored patterns -/

theorem trim_blur (t : Text) : Text.trim (blur t) = blur (Text.trim t) := by
  have hblank : Text.isBlankChar ∘ blurChar = Text.isBlankChar :=
    funext digitBlind_isBlankChar.apply_blurChar
  unfold Text.trim Text.trimEnd Text.trimStart blur
  rw [List.dropWhile_map, hblank, ← List.map_reverse, List.dropWhile_map, hblank, List.map_reverse]

/-- **A digit-blind stored pattern accepts an input exactly if it accepts the input with zeros for
its digits.** -/
theorem accepts_blur [SizeLimit] {stored : Option Text} {r : Regex}
    (hr : stored.bind compile? = some r) (h : r.DigitBlind) (input : Text) :
    accepts stored (blur input) = accepts stored input := by
  unfold accepts
  split
  · rfl
  · rename_i s hs
    have hcompiled : compile? s = some r := by
      rw [Option.eq_some_of_filter_eq_some hs] at hr
      exact hr
    have hempty : (blur (Text.trim input)).isEmpty = (Text.trim input).isEmpty := List.isEmpty_map
    simp only [trim_blur, hcompiled, Option.any_some, r.search_blur h, hempty]

end Gazetteer.Pattern
