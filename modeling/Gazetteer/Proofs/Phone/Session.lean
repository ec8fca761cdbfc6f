/-
# Gazetteer.Proofs.Phone.Session -- typing, taking back and accepting

Someone types digits and takes the last character back, and after every stroke the formatted number
replaces what stands in the field. What is in the field is then always the stack of the digits that
were typed and not taken back, laid onto the mask. Two things could go wrong and do not: taking back
could remove decoration in place of a digit, and reading the field again could find other digits
than were typed.

Once the stack is empty, a piece of the leading decoration may stay behind in the field. It holds no
digit, so that later strokes do as well with it as without it.
-/
import Gazetteer.Country.Basic
import Gazetteer.Phone.Typing
import Gazetteer.Proofs.Phone.Fill
import Gazetteer.Proofs.Phone.Status

namespace Gazetteer.Phone

/-! ## Strokes -/

/-- A digit is typed, or the last character is taken back. -/
inductive Stroke where
  | digit (d : Char) (isDigit : d.isDigit = true)
  | back

namespace Stroke

/-- The keys of a stroke; the formatted number is accepted after it. -/
def keys : Stroke → List Key
  | .digit d _ => [.append [d], .accept]
  | .back => [.removeLast, .accept]

/-- What a stroke does to the stack of digits. -/
def push (digits : Text) : Stroke → Text
  | .digit d _ => digits ++ [d]
  | .back => digits.dropLast

/-- The stack of digits after some strokes. -/
def stack (strokes : List Stroke) : Text := strokes.foldl push []

end Stroke

/-! ## What the field shows -/

/-- A field shows a stack of digits on a mask: it is the filled mask, or, for the empty stack, a
piece of the leading decoration. -/
structure Mask.Shows (mask : Mask) (digits field : Text) : Prop where
  areDigits : ∀ c ∈ digits, c.isDigit = true
  ofNonempty : digits ≠ [] → field = mask.fill digits
  ofEmpty : digits = [] → field <+: mask.lead

variable {mask : Mask}

theorem Mask.Shows.start (mask : Mask) : mask.Shows [] [] :=
  ⟨by simp, fun h => absurd rfl h, fun _ => List.nil_prefix⟩

/-- The digits in the field are the digits of the stack. -/
theorem Mask.Shows.digits_eq (hfree : mask.DigitFree) {digits field : Text}
    (h : mask.Shows digits field) (hroom : digits.length ≤ mask.slots) :
    Text.digits field = digits := by
  by_cases hnil : digits = []
  · rw [hnil]
    exact Mask.digits_lead hfree (h.ofEmpty hnil)
  · rw [h.ofNonempty hnil]
    exact Mask.digits_fill hfree h.areDigits hroom

/-- Accepting a field brings the filled mask back, or leaves a field without digits alone. -/
theorem press_accept {phoneFormat : Option Text} (hmask : phoneFormat.bind Mask.ofText? = some mask)
    (field : Text) :
    Key.press phoneFormat field .accept
      = if (Text.digits field).isEmpty then field else mask.fill (Text.digits field) := by
  simp [Key.press, format, hmask]

/-- A field that holds the digits of a stack shows the stack once it is accepted. -/
theorem Mask.Shows.accept {phoneFormat : Option Text}
    (hmask : phoneFormat.bind Mask.ofText? = some mask) {digits field : Text}
    (hdigits : ∀ c ∈ digits, c.isDigit = true) (hread : Text.digits field = digits)
    (hlead : digits = [] → field <+: mask.lead) :
    mask.Shows digits (Key.press phoneFormat field .accept) := by
  rw [press_accept hmask, hread]
  refine ⟨hdigits, fun hne => ?_, fun hnil => ?_⟩
  · rw [if_neg (by simpa using hne)]
  · rw [if_pos (by simpa using hnil)]
    exact hlead hnil

/-- Typing a digit onto a field adds it to the digits of the field. -/
theorem Mask.Shows.type {phoneFormat : Option Text}
    (hmask : phoneFormat.bind Mask.ofText? = some mask) (hfree : mask.DigitFree)
    {digits field : Text} (h : mask.Shows digits field) (hroom : digits.length ≤ mask.slots)
    {d : Char} (hd : d.isDigit = true) :
    mask.Shows (digits ++ [d])
      (Key.press phoneFormat (Key.press phoneFormat field (.append [d])) .accept) := by
  have hlast : Text.digits [d] = [d] := Text.digits_eq_self (by simpa using hd)
  refine .accept hmask ?_ ?_ (by simp)
  · intro c hc
    rcases List.mem_append.mp hc with hc | hc
    · exact h.areDigits c hc
    · rw [List.mem_singleton.mp hc]
      exact hd
  · show Text.digits (field ++ [d]) = digits ++ [d]
    rw [Text.digits_append, h.digits_eq hfree hroom, hlast]

/-- Taking the last character back takes the last digit back: decoration never stands behind it. -/
theorem Mask.Shows.takeBack {phoneFormat : Option Text}
    (hmask : phoneFormat.bind Mask.ofText? = some mask) (hfree : mask.DigitFree)
    {digits field : Text} (h : mask.Shows digits field) (hroom : digits.length ≤ mask.slots) :
    mask.Shows digits.dropLast
      (Key.press phoneFormat (Key.press phoneFormat field .removeLast) .accept) := by
  have hdigits : ∀ c ∈ digits.dropLast, c.isDigit = true :=
    fun c hc => h.areDigits c ((List.dropLast_prefix digits).subset hc)
  rcases List.eq_nil_or_concat digits with rfl | ⟨init, d, rfl⟩
  · -- What is left of the leading decoration loses its last character.
    have hlead : field.dropLast <+: mask.lead := (List.dropLast_prefix field).trans (h.ofEmpty rfl)
    exact .accept hmask hdigits (Mask.digits_lead hfree hlead) fun _ => hlead
  · rw [List.concat_eq_append] at h hroom hdigits ⊢
    have hless : init.length < mask.slots := by
      rw [List.length_append, List.length_singleton] at hroom
      omega
    rw [List.dropLast_concat] at hdigits ⊢
    -- The last character is the last digit; in front of it are the others.
    obtain ⟨front, hfill, hread, hlead⟩ := Mask.fill_concat hfree hdigits hless d
    have hfield : field.dropLast = front := by
      rw [h.ofNonempty (by simp), hfill, List.dropLast_concat]
    refine .accept hmask hdigits ?_ ?_
    · show Text.digits field.dropLast = init
      rw [hfield, hread]
    · intro hnil
      show field.dropLast <+: mask.lead
      exact hfield ▸ hlead hnil ▸ List.prefix_rfl

/-! ## One stroke, and all of them -/

/-- The field after a stroke and the accepting that follows it. -/
def Stroke.run (phoneFormat : Option Text) (field : Text) (s : Stroke) : Text :=
  s.keys.foldl (Key.press phoneFormat) field

theorem Mask.Shows.stroke {phoneFormat : Option Text}
    (hmask : phoneFormat.bind Mask.ofText? = some mask) (hfree : mask.DigitFree)
    {digits field : Text} (h : mask.Shows digits field) (hroom : digits.length ≤ mask.slots)
    (s : Stroke) : mask.Shows (s.push digits) (s.run phoneFormat field) := by
  cases s with
  | digit d hd => exact h.type hmask hfree hroom hd
  | back => exact h.takeBack hmask hfree hroom

/-- A stroke and its accepting make two fields of a session. -/
theorem session_stroke (phoneFormat : Option Text) (field : Text) (s : Stroke) (keys : List Key) :
    ∃ between, session phoneFormat field (s.keys ++ keys)
      = between :: s.run phoneFormat field :: session phoneFormat (s.run phoneFormat field) keys := by
  cases s with
  | digit d hd => exact ⟨_, rfl⟩
  | back => exact ⟨_, rfl⟩

/-- From a field that shows a stack of digits on, every accepted field shows the stack of its
time. -/
theorem session_shows {phoneFormat : Option Text}
    (hmask : phoneFormat.bind Mask.ofText? = some mask) (hfree : mask.DigitFree)
    {digits field : Text} (h : mask.Shows digits field) {strokes : List Stroke}
    (hroom : ∀ past, past <+: strokes → (past.foldl Stroke.push digits).length ≤ mask.slots)
    {i : Nat} (hi : i < strokes.length) :
    ∃ shown, (session phoneFormat field (strokes.flatMap Stroke.keys))[2 * i + 1]? = some shown
      ∧ mask.Shows ((strokes.take (i + 1)).foldl Stroke.push digits) shown := by
  -- The induction is on the strokes to come, whatever stack and field they start from.
  induction strokes generalizing digits field i with
  | nil => exact absurd hi (by simp)
  | cons s strokes ih =>
    have hstart : digits.length ≤ mask.slots := hroom [] List.nil_prefix
    have hstep : mask.Shows (s.push digits) (s.run phoneFormat field) :=
      h.stroke hmask hfree hstart s
    obtain ⟨between, hsession⟩ :=
      session_stroke phoneFormat field s (strokes.flatMap Stroke.keys)
    rw [List.flatMap_cons, hsession]
    cases i with
    | zero => exact ⟨_, rfl, hstep⟩
    | succ i =>
      refine ih hstep (fun past hpast => ?_) (by simpa using hi)
      exact hroom (s :: past) (List.cons_prefix_cons.mpr ⟨rfl, hpast⟩)

/-- **Typing session.** Under a mask without digits, and as long as there are never more digits than
slots, every accepted field is the filled mask, or a piece of its leading decoration once all digits
are taken back; and with a calling code at hand the status of the field is told by the number of
digits on the stack. -/
theorem session_strokes [Pattern.SizeLimit] {c : Country} {mask : Mask}
    (hmask : c.phoneFormat.bind Mask.ofText? = some mask) (hfree : mask.DigitFree)
    {strokes : List Stroke}
    (hroom : ∀ past, past <+: strokes → (Stroke.stack past).length ≤ mask.slots)
    {i : Nat} (hi : i < strokes.length) :
    let digits := Stroke.stack (strokes.take (i + 1))
    ∃ field, (session c.phoneFormat [] (strokes.flatMap Stroke.keys))[2 * i + 1]? = some field
      ∧ (digits ≠ [] → field = mask.fill digits)
      ∧ (digits = [] → field <+: mask.lead)
      ∧ ((Text.nonBlank? c.phoneCountryCode).isSome →
        ((c.analyzePhone field).status = .empty ↔ digits = [])
        ∧ ((c.analyzePhone field).status = .incomplete
          ↔ 0 < digits.length ∧ digits.length < mask.slots)
        ∧ (digits ≠ [] → digits.length = mask.slots →
          (c.analyzePhone field).status = .complete ∨ (c.analyzePhone field).status = .invalid)) := by
  intro digits
  obtain ⟨field, hfield, hshows⟩ := session_shows hmask hfree (.start mask) hroom hi
  have hlength : digits.length ≤ mask.slots := hroom _ (List.take_prefix _ _)
  have hread : Text.digits field = digits := hshows.digits_eq hfree hlength
  refine ⟨field, hfield, hshows.ofNonempty, hshows.ofEmpty, fun hsome => ?_⟩
  obtain ⟨code, hcode⟩ := Option.isSome_iff_exists.mp hsome
  rw [← hread]
  exact ⟨status_eq_empty_iff hmask hcode, status_eq_incomplete_iff hmask hcode,
    status_of_full hmask hcode⟩

/-- Four strokes under a mask with decoration in front of and between its slots. -/
theorem session_strokes_takenBack :
    let c : Country := { phoneFormat := some "(##) ##", phoneCountryCode := some "+1" }
    let mask : Mask := ⟨"(##) ##", by decide⟩
    let strokes : List Stroke := [.digit '2' rfl, .digit '0' rfl, .digit '1' rfl, .back]
    c.phoneFormat.bind Mask.ofText? = some mask ∧ mask.DigitFree
      ∧ (∀ past, past <+: strokes → (Stroke.stack past).length ≤ mask.slots)
      ∧ ∃ field, (session c.phoneFormat [] (strokes.flatMap Stroke.keys))[7]? = some field
        ∧ field = "(20".toList ∧ (c.analyzePhone field).status = .incomplete := by
  intro c mask strokes
  have hfree : mask.DigitFree := by decide
  have hroom : ∀ past, past <+: strokes → (Stroke.stack past).length ≤ mask.slots := by
    intro past hpast
    rw [List.prefix_iff_eq_take.mp hpast]
    have hlength : past.length ≤ 4 := hpast.length_le
    have hall : ∀ n ≤ 4, (Stroke.stack (strokes.take n)).length ≤ mask.slots := by decide
    exact hall _ hlength
  refine ⟨rfl, hfree, hroom, ?_⟩
  obtain ⟨field, hfield, hfill, -, hstatus⟩ :=
    session_strokes (c := c) rfl hfree hroom (i := 3) (by decide)
  exact ⟨field, hfield, hfill (by decide), (hstatus (by decide)).2.1.mpr (by decide)⟩

/-- Without a slot there is no room for a digit, and the empty stack is as long as the mask has
slots: the field is then empty, and neither complete nor invalid. -/
theorem session_strokes_noSlot :
    let c : Country := { phoneFormat := some "+--", phoneCountryCode := some "+1" }
    let mask : Mask := ⟨"+--", by decide⟩
    let strokes : List Stroke := [.back]
    c.phoneFormat.bind Mask.ofText? = some mask ∧ mask.DigitFree
      ∧ (∀ past, past <+: strokes → (Stroke.stack past).length ≤ mask.slots)
      ∧ (Text.nonBlank? c.phoneCountryCode).isSome
      ∧ session c.phoneFormat [] (strokes.flatMap Stroke.keys) = [[], []]
      ∧ (Stroke.stack strokes).length = mask.slots
      ∧ ¬ ((c.analyzePhone []).status = .complete ∨ (c.analyzePhone []).status = .invalid) := by
  intro c mask strokes
  have hroom : ∀ past, past <+: strokes → (Stroke.stack past).length ≤ mask.slots := by
    intro past hpast
    rcases List.prefix_cons_iff.mp hpast with rfl | ⟨rest, rfl, hrest⟩
    · exact Nat.le_refl 0
    · rw [List.prefix_nil.mp hrest]
      exact Nat.le_refl 0
  exact ⟨rfl, by decide, hroom, by decide, by decide, by decide, by decide⟩

end Gazetteer.Phone
