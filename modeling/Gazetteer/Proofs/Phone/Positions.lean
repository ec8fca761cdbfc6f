/-
# Gazetteer.Proofs.Phone.Positions -- where the digits of a filled mask stand

Filling a mask reads two texts at once, the mask and the digits, and whether decoration is laid
depends on whether a digit is still to come. What comes of it is said here without the loop: the
mask is cut behind one of its slots, and the digits take the slots in front of the cut one by one.
A further digit brings the decoration up to the next slot with it.

The cut is behind the last digit only if every digit finds a slot. A digit too many finds none, but
it is still to come when the decoration behind the last slot is reached, so that decoration is laid.
-/
import Gazetteer.Proofs.Phone.Fill

namespace Gazetteer.Phone

namespace Mask

/-! ## The front of a mask with its slots filled -/

/-- A text is a mask with digits in its slots, one digit in each, in order. -/
inductive Filled : Text → Text → Text → Prop
  | nil : Filled [] [] []
  | digit {front digits out : Text} (d : Char) :
    Filled front digits out → Filled (slot :: front) (d :: digits) (d :: out)
  | decoration {c : Char} {front digits out : Text} (hc : c ≠ slot) :
    Filled front digits out → Filled (c :: front) digits (c :: out)

/-- The text is cut right behind a slot, or in front of everything. -/
def EndsInSlot (front : Text) : Prop := ∀ c ∈ front.getLast?, c = slot

variable {front behind digits out : Text}

theorem EndsInSlot.of_cons {c : Char} (h : EndsInSlot (c :: front)) : EndsInSlot front := by
  intro d hd
  apply h d
  rw [List.getLast?_cons, hd]
  rfl

theorem EndsInSlot.cons {c : Char} (h : EndsInSlot front) (hc : front = [] → c = slot) :
    EndsInSlot (c :: front) := by
  intro d hd
  cases front with
  | nil =>
    rw [List.getLast?_singleton, Option.mem_some_iff] at hd
    rw [← hd]
    exact hc rfl
  | cons e front =>
    rw [List.getLast?_cons_cons] at hd
    exact h d hd

namespace Filled

theorem length_eq (h : Filled front digits out) : out.length = front.length := by
  induction h with
  | nil => rfl
  | digit d _ ih => rw [List.length_cons, List.length_cons, ih]
  | decoration hc _ ih => rw [List.length_cons, List.length_cons, ih]

/-- There is a digit for every slot. -/
theorem count_eq (h : Filled front digits out) : front.count slot = digits.length := by
  induction h with
  | nil => rfl
  | digit d _ ih => rw [List.count_cons_self, ih, List.length_cons]
  | decoration hc _ ih => rw [List.count_cons_of_ne hc, ih]

/-- A slot holds the digit whose number is the number of slots in front of it, and everything else
is as it is in the mask. -/
theorem getElem?_eq (h : Filled front digits out) (i : Nat) :
    out[i]? = if front[i]? = some slot then digits[(front.take i).count slot]? else front[i]? := by
  induction h generalizing i with
  | nil => simp
  | digit d _ ih =>
    cases i with
    | zero => simp
    | succ i => simpa using ih i
  | @decoration c front digits out hc _ ih =>
    cases i with
    | zero => simp [hc]
    | succ i =>
      have hcount : ((c :: front).take (i + 1)).count slot
          = (front.take i).count slot := by
        rw [List.take_succ_cons, List.count_cons_of_ne hc]
      rw [hcount]
      exact ih i

/-- Digits are laid onto the front of a mask as long as there is a digit to come: another one behind
the front, or one for the slot that the front ends in. -/
theorem lay_append (h : Filled front digits out) {more : Text}
    (hmore : more ≠ [] ∨ EndsInSlot front) (behind : Text) :
    lay (front ++ behind) (digits ++ more) = out ++ lay behind more := by
  induction h with
  | nil => rfl
  | digit d _ ih =>
    rw [List.cons_append, List.cons_append, lay_slot, ih (hmore.imp_right EndsInSlot.of_cons)]
    rfl
  | @decoration c front digits out hc hrest ih =>
    have hne : digits ++ more ≠ [] := by
      rcases hmore with hmore | hend
      · exact List.append_ne_nil_of_right_ne_nil _ hmore
      -- The front goes on behind the decoration, up to a slot.
      · apply List.append_ne_nil_of_left_ne_nil
        rintro rfl
        have hnone : slot ∉ front := List.count_eq_zero.mp hrest.count_eq
        have hlast : slot ∈ c :: front := by
          have hin := List.getLast_mem (List.cons_ne_nil c front)
          rwa [hend _ (List.getLast?_eq_some_getLast (List.cons_ne_nil c front))] at hin
        rcases List.mem_cons.mp hlast with heq | hin
        · exact hc heq.symm
        · exact hnone hin
    obtain ⟨e, others, hcons⟩ := List.exists_cons_of_ne_nil hne
    have hstep := ih (hmore.imp_right EndsInSlot.of_cons)
    rw [hcons] at hstep
    rw [List.cons_append, hcons, lay_decoration hc, hstep]
    rfl

/-- Behind a slot that takes the last digit nothing is laid. -/
theorem lay_eq (h : Filled front digits out) (hend : EndsInSlot front) (behind : Text) :
    lay (front ++ behind) digits = out := by
  have hlaid : lay (front ++ behind) (digits ++ []) = out ++ lay behind [] :=
    h.lay_append (Or.inr hend) behind
  rwa [List.append_nil, lay_nil_right, List.append_nil] at hlaid

end Filled

/-- Digits that all find a slot fill a front of the mask that ends in the slot of the last one. -/
theorem exists_filled {mask digits : Text} (hroom : digits.length ≤ mask.count slot) :
    ∃ front behind out, mask = front ++ behind ∧ EndsInSlot front ∧ Filled front digits out := by
  induction mask generalizing digits with
  | nil =>
    have hnil : digits = [] := by simpa using hroom
    rw [hnil]
    exact ⟨[], [], [], rfl, by simp [EndsInSlot], .nil⟩
  | cons c mask ih =>
    cases digits with
    | nil => exact ⟨[], c :: mask, [], rfl, by simp [EndsInSlot], .nil⟩
    | cons d digits =>
      by_cases hc : c = slot
      · subst hc
        rw [List.count_cons_self, List.length_cons] at hroom
        obtain ⟨front, behind, out, rfl, hend, hfilled⟩ := ih (Nat.le_of_succ_le_succ hroom)
        exact ⟨slot :: front, behind, d :: out, rfl, hend.cons fun _ => rfl, hfilled.digit d⟩
      · rw [List.count_cons_of_ne hc] at hroom
        obtain ⟨front, behind, out, rfl, hend, hfilled⟩ := ih hroom
        refine ⟨c :: front, behind, c :: out, rfl, hend.cons ?_, hfilled.decoration hc⟩
        -- A front without characters would hold no slot for the digit.
        rintro rfl
        exact absurd hfilled.count_eq (by simp)

/-- A text without slots is decoration. -/
theorem filled_decoration {t : Text} (h : slot ∉ t) : Filled t [] t := by
  induction t with
  | nil => exact .nil
  | cons c t ih =>
    rw [List.mem_cons, not_or] at h
    exact .decoration (fun heq => h.1 heq.symm) (ih h.2)

/-- Decoration is laid if a digit is still to come. -/
theorem lay_of_notMem {t : Text} (h : slot ∉ t) (more : Text) :
    lay t more = if more = [] then [] else t := by
  split
  · rename_i hnil
    rw [hnil, lay_nil_right]
  · rename_i hne
    have hlaid := (filled_decoration h).lay_append (Or.inl hne) []
    rwa [List.append_nil, List.nil_append, lay, List.append_nil] at hlaid

/-! ## Positions -/

/-- A mask is cut right behind the slot of a number; for no slot, in front of everything. -/
structure CutBehind (m : Mask) (n : Nat) (front behind : Text) : Prop where
  whole : m.text = front ++ behind
  slots_eq : front.count slot = n
  ends : EndsInSlot front

/-- Digits that all find a slot are laid up to the slot of the last one. -/
theorem exists_cutBehind {m : Mask} (hroom : digits.length ≤ m.slots) :
    ∃ front behind, m.CutBehind digits.length front behind
      ∧ Filled front digits (m.fill digits) := by
  obtain ⟨front, behind, out, hmask, hend, hfilled⟩ := exists_filled hroom
  have hfill : m.fill digits = out := by
    rw [fill, hmask]
    exact hfilled.lay_eq hend behind
  rw [hfill]
  exact ⟨front, behind, ⟨hmask, hfilled.count_eq, hend⟩, hfilled⟩

theorem CutBehind.count_behind {m : Mask} {n : Nat} (h : m.CutBehind n front behind) :
    n + behind.count slot = m.slots := by
  rw [slots, h.whole, List.count_append, h.slots_eq]

/-- The next digit brings the decoration in front of its slot. -/
theorem CutBehind.fill_concat {m : Mask} (h : m.CutBehind digits.length front behind)
    (hfilled : Filled front digits (m.fill digits)) (hless : digits.length < m.slots) :
    ∃ between rest, behind = between ++ slot :: rest ∧ slot ∉ between
      ∧ ∀ x, m.fill (digits ++ [x]) = m.fill digits ++ (between ++ [x]) := by
  have hmem : slot ∈ behind := by
    have hcount := h.count_behind
    apply List.count_pos_iff.mp
    omega
  obtain ⟨between, rest, rfl, hbetween⟩ := List.eq_append_cons_of_mem hmem
  refine ⟨between, rest, rfl, hbetween, fun x => ?_⟩
  have hfront : lay (front ++ (between ++ slot :: rest)) (digits ++ [x])
      = m.fill digits ++ lay (between ++ slot :: rest) [x] :=
    hfilled.lay_append (Or.inl (List.cons_ne_nil x [])) _
  have hgap : lay (between ++ slot :: rest) [x] = between ++ lay (slot :: rest) [x] :=
    (filled_decoration hbetween).lay_append (Or.inl (List.cons_ne_nil x [])) _
  rw [← h.whole, hgap, lay_slot, lay_nil_right] at hfront
  exact hfront

/-- **Filling is positional, incremental and reversible.** With no more digits than slots, the
filled mask is the mask cut behind the slot of the last digit, with each digit in the slot of its
number. One more digit adds the decoration up to the next slot and itself. Without digits in the
mask, the digits are read back from what is filled, and filling them again gives the same. -/
theorem fill_positional (m : Mask) (digits : Text) (hdigits : ∀ c ∈ digits, c.isDigit = true)
    (hroom : digits.length ≤ m.slots) :
    (digits = [] → m.fill digits = [])
    ∧ (∃ front behind, m.CutBehind digits.length front behind
      ∧ (m.fill digits).length = front.length
      ∧ (∀ i, (m.fill digits)[i]?
        = if front[i]? = some slot then digits[(front.take i).count slot]? else front[i]?)
      ∧ (digits.length < m.slots →
        ∃ between rest, behind = between ++ slot :: rest ∧ slot ∉ between
          ∧ ∀ x : Char, x.isDigit = true →
            m.fill (digits ++ [x]) = m.fill digits ++ (between ++ [x])))
    ∧ (m.DigitFree → Text.digits (m.fill digits) = digits
      ∧ m.fill (Text.digits (m.fill digits)) = m.fill digits) := by
  obtain ⟨front, behind, hcut, hfilled⟩ := exists_cutBehind hroom
  refine ⟨?_, ⟨front, behind, hcut, hfilled.length_eq, hfilled.getElem?_eq, ?_⟩, ?_⟩
  · rintro rfl
    exact fill_nil m
  · intro hless
    obtain ⟨between, rest, hbehind, hbetween, hnext⟩ := hcut.fill_concat hfilled hless
    exact ⟨between, rest, hbehind, hbetween, fun x _ => hnext x⟩
  · intro hfree
    have hread : Text.digits (m.fill digits) = digits := digits_fill hfree hdigits hroom
    exact ⟨hread, by rw [hread]⟩

/-- A mask with decoration at both ends, beside and between its slots, and two of its three
digits. -/
theorem fill_positional_inside :
    let m : Mask := ⟨"+(##) -# !", by decide⟩
    (∀ c ∈ "12".toList, c.isDigit = true) ∧ "12".toList.length ≤ m.slots
      ∧ m.fill "12" = "+(12".toList
      ∧ m.fill (Text.digits (m.fill "12")) = m.fill "12" := by
  intro m
  have hdigits : ∀ c ∈ "12".toList, c.isDigit = true := by decide
  have hroom : "12".toList.length ≤ m.slots := by decide
  obtain ⟨-, -, hback⟩ := fill_positional m "12" hdigits hroom
  exact ⟨hdigits, hroom, by decide, (hback (by decide)).2⟩

/-! ## Digits that find no slot -/

/-- The decoration behind the last slot; the whole mask if there is no slot. -/
def tail (m : Mask) : Text := (m.text.reverse.takeWhile (· != slot)).reverse

/-- Behind the last slot there is no other. -/
theorem CutBehind.slot_notMem {m : Mask} (h : m.CutBehind m.slots front behind) :
    slot ∉ behind := by
  have hcount := h.count_behind
  apply List.count_eq_zero.mp
  omega

theorem CutBehind.tail_eq {m : Mask} (h : m.CutBehind m.slots front behind) :
    m.tail = behind := by
  have hdecoration : ∀ c ∈ behind.reverse, (c != slot) = true := by
    intro c hc
    rw [bne_iff_ne]
    rintro rfl
    exact h.slot_notMem (List.mem_reverse.mp hc)
  have hslot : front.reverse.takeWhile (· != slot) = [] := by
    cases hfront : front.reverse with
    | nil => rfl
    | cons c others =>
      have hlast : front.getLast? = some c := by
        rw [← List.head?_reverse, hfront]
        rfl
      rw [h.ends c hlast]
      exact List.takeWhile_cons_of_neg (by simp)
  rw [tail, h.whole, List.reverse_append, List.takeWhile_append_of_pos hdecoration, hslot,
    List.append_nil, List.reverse_reverse]

/-- The digits that find a slot are laid as without the others, and the others bring the decoration
behind the last slot. -/
theorem fill_eq_append (m : Mask) (digits : Text) :
    m.fill digits
      = m.fill (digits.take m.slots) ++ if m.slots < digits.length then m.tail else [] := by
  by_cases hmany : m.slots < digits.length
  · have hlength : (digits.take m.slots).length = m.slots :=
      List.length_take_of_le (Nat.le_of_lt hmany)
    obtain ⟨front, behind, hcut, hfilled⟩ := exists_cutBehind (Nat.le_of_eq hlength)
    rw [hlength] at hcut
    have hmore : digits.drop m.slots ≠ [] := by
      apply List.ne_nil_of_length_pos
      rw [List.length_drop]
      omega
    have hall : lay (front ++ behind) (digits.take m.slots ++ digits.drop m.slots)
        = m.fill (digits.take m.slots) ++ lay behind (digits.drop m.slots) :=
      hfilled.lay_append (Or.inl hmore) behind
    rw [← hcut.whole, List.take_append_drop, lay_of_notMem hcut.slot_notMem, if_neg hmore]
      at hall
    rw [if_pos hmany, hcut.tail_eq]
    exact hall
  · rw [if_neg hmany, List.append_nil, List.take_of_length_le (Nat.le_of_not_lt hmany)]

/-- Digits are laid onto the mask; without any, the empty text is. -/
theorem format_part (m : Mask) {t : Text} (h : Text.digits t = [] → t = []) :
    format t (some m.text) true = m.fill (Text.digits t) := by
  have hmask : (some m.text).bind Mask.ofText? = some m := m.ofText?_text
  unfold format
  rw [hmask]
  by_cases hnone : Text.digits t = []
  · rw [hnone, fill_nil, h hnone]
    simp
  · simp [hnone]

/-- **Surplus digits bring the decoration behind the last slot with them**, and nothing else. So
they change nothing exactly if there is no such decoration. -/
theorem fill_surplus (m : Mask) (digits : Text) :
    m.fill digits
        = m.fill (digits.take m.slots) ++ (if m.slots < digits.length then m.tail else [])
      ∧ (m.fill digits = m.fill (digits.take m.slots) ↔ digits.length ≤ m.slots ∨ m.tail = [])
      ∧ ∀ input, m.slots < (Text.digits input).length →
        format input (some m.text) true
          = format ((Text.digits input).take m.slots) (some m.text) true ++ m.tail := by
  refine ⟨fill_eq_append m digits, ?_, fun input hmany => ?_⟩
  · rw [fill_eq_append m digits, List.append_right_eq_self]
    by_cases hmany : m.slots < digits.length
    · rw [if_pos hmany, or_iff_right (Nat.not_le_of_lt hmany)]
    · rw [if_neg hmany]
      exact iff_of_true rfl (Or.inl (Nat.le_of_not_lt hmany))
  · have hne : Text.digits input ≠ [] := List.ne_nil_of_length_pos (by omega)
    -- The digits that are kept are digits, so formatting reads all of them again.
    have hcut : Text.digits ((Text.digits input).take m.slots)
        = (Text.digits input).take m.slots := by
      refine Text.digits_eq_self fun c hc => ?_
      exact (List.mem_filter.mp (List.mem_of_mem_take hc)).2
    rw [format_part m fun hnil => absurd hnil hne, format_part m fun hnil => hcut ▸ hnil, hcut,
      fill_eq_append m (Text.digits input), if_pos hmany]

/-- A digit too many brings the closing bracket of a mask, and no digit more is shown. -/
theorem fill_surplus_closingBracket :
    let m : Mask := ⟨"(##)", by decide⟩
    m.slots < (Text.digits "1-2-3").length
      ∧ m.fill "123" = "(12)".toList ∧ m.fill ("123".toList.take m.slots) = "(12".toList
      ∧ m.fill "123" ≠ m.fill ("123".toList.take m.slots)
      ∧ format "1-2-3" (some m.text) true = "(12)".toList := by
  intro m
  have hmany : m.slots < (Text.digits "1-2-3").length := by decide
  obtain ⟨hfill, hsame, -⟩ := fill_surplus m "123"
  obtain ⟨-, -, hformat⟩ := fill_surplus m "1-2-3"
  refine ⟨hmany, hfill.trans (by decide), by decide, ?_, (hformat "1-2-3" hmany).trans (by decide)⟩
  rw [ne_eq, hsame]
  decide

end Mask

end Gazetteer.Phone
