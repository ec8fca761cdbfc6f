/-
# Gazetteer.Proofs.Pattern.Repetitions -- repetitions are read, and where they end

Behind an item, repetitions are read one by one, whatever the item has been read as. They end where
nothing repeats: in front of the next item, a bar, a closing bracket or the end of the text. Which
leaves a pattern is made of matters for the front of an item only, so that is all that is asked of
them (`Fronted`).
-/
import Gazetteer.Proofs.Pattern.Parts
import Gazetteer.Proofs.Text.Blank
import Gazetteer.Proofs.Text.Chars

namespace Gazetteer.Pattern

/-! ## Repetitions -/

/-- A number starts with a digit. -/
theorem Numeral.front (n : Numeral) : ∃ d ds, n.digits = d :: ds ∧ d.isDigit = true := by
  have hvalid := n.valid
  cases hdigits : n.digits with
  | nil => simp [hdigits] at hvalid
  | cons d ds =>
    simp only [hdigits, Bool.and_eq_true, List.all_cons] at hvalid
    exact ⟨d, ds, rfl, hvalid.1.2.1⟩

/-- A number is read up to a comma or brace. -/
theorem Numeral.count? (n : Numeral) {c : Char} (hc : c = ',' ∨ c = '}') (rest : Text) :
    Pattern.count? (n.digits ++ c :: rest) = some (n.value, c :: rest) := by
  have hvalid := n.valid
  simp only [Bool.and_eq_true, Bool.not_eq_true', List.all_eq_true, decide_eq_true_eq] at hvalid
  obtain ⟨⟨hne, hdigits⟩, hsmall⟩ := hvalid
  have hstop : c.isDigit = false ∧ Text.isBlankChar c = false := by
    rcases hc with rfl | rfl <;> decide
  have hstart : Text.trimStart (n.digits ++ c :: rest) = n.digits ++ c :: rest := by
    obtain ⟨d, ds, htext, hdigit⟩ := n.front
    have hrange := Text.isDigit_iff.mp hdigit
    rw [htext]
    exact Text.trimStart_eq_self (by simpa using Text.isBlankChar_eq_false (by omega))
  have htake : (n.digits ++ c :: rest).takeWhile Char.isDigit = n.digits := by
    rw [List.takeWhile_append_of_pos hdigits, List.takeWhile_cons_of_neg (by simp [hstop.1]),
      List.append_nil]
  have hend : Text.trimStart (c :: rest) = c :: rest := Text.trimStart_eq_self (by simp [hstop.2])
  have hvalue : n.digits.foldl (fun n c => 10 * n + (c.toNat - 48)) 0 = n.value := rfl
  rw [Pattern.count?, hstart, htake, hne, List.drop_left, hend, hvalue, if_neg]
  rw [Bool.false_or, decide_eq_true_eq]
  exact Nat.not_le.mpr hsmall

/-- The bounds that a count is read as. -/
def Count.bounds (c : Count) : Bounds := ⟨c.least, c.most⟩

theorem Count.isValid_bounds (c : Count) : c.bounds.isValid = true := by
  match c with
  | .optional | .anyNumber | .atLeastOnce | .exactly _ | .atLeast _ =>
    simp [bounds, Bounds.isValid, most, least]
  | .between least most ordered => exact decide_eq_true ordered

theorem counted?_between {least most : Numeral} (ordered : least.value ≤ most.value) (rest : Text) :
    counted? (least.digits ++ ',' :: (most.digits ++ '}' :: rest))
      = some ((Count.between least most ordered).bounds, rest) := by
  obtain ⟨d, ds, htext, hdigit⟩ := most.front
  have hbrace : d ≠ '}' := by
    rintro rfl
    exact absurd hdigit (by decide)
  have hmost := most.count? (.inr rfl) rest
  rw [htext, List.cons_append] at hmost
  rw [counted?, least.count? (.inl rfl), htext, List.cons_append]
  simp [hmost, hbrace, Count.bounds, Count.least, Count.most]

/-- A count is read, and then a question mark is left out. -/
theorem Count.repetitionMark (c : Count) (rest : Text) :
    Pattern.repetitionMark (c.text ++ rest) = .present c.bounds (dropLazy rest) := by
  have hcounted : ∀ t, counted? t = some (c.bounds, rest) →
      Pattern.repetitionMark ('{' :: t) = .present c.bounds (dropLazy rest) := by
    intro t ht
    rw [Pattern.repetitionMark, ht]
    exact if_pos c.isValid_bounds
  match c with
  | .optional => rfl
  | .anyNumber => rfl
  | .atLeastOnce => rfl
  | .exactly n =>
    have htext : (exactly n).text ++ rest = '{' :: (n.digits ++ '}' :: rest) := by simp [text]
    rw [htext]
    refine hcounted _ ?_
    rw [counted?, n.count? (.inr rfl)]
    rfl
  | .atLeast n =>
    have htext : (atLeast n).text ++ rest = '{' :: (n.digits ++ ',' :: '}' :: rest) := by
      simp [text]
    rw [htext]
    refine hcounted _ ?_
    rw [counted?, n.count? (.inl rfl)]
    rfl
  | .between least most ordered =>
    have htext : (between least most ordered).text ++ rest
        = '{' :: (least.digits ++ ',' :: (most.digits ++ '}' :: rest)) := by
      simp [text]
    rw [htext]
    exact hcounted _ (counted?_between ordered rest)

theorem dropLazy_of_head? {t : Text} (h : t.head? ≠ some '?') : dropLazy t = t := by
  unfold dropLazy
  split
  · simp at h
  · rfl

/-- A repetition is read in front of what does not make it lazy. -/
theorem Quantifier.repetitionMark (q : Quantifier) {rest : Text}
    (h : q.isLazy = true ∨ rest.head? ≠ some '?') :
    Pattern.repetitionMark (q.text ++ rest) = .present q.count.bounds rest := by
  rw [text, List.append_assoc, q.count.repetitionMark]
  cases hlazy : q.isLazy with
  | true => rfl
  | false =>
    have hrest : rest.head? ≠ some '?' := h.resolve_left (by simp [hlazy])
    exact congrArg _ (dropLazy_of_head? hrest)

/-- What may stand at the front of a repetition. -/
def repetitionFronts : Text := ['?', '*', '+', '{']

/-- A text does not start with a repetition. -/
def RepeatsNothing (t : Text) : Prop := ∀ c ∈ t.head?, c ∉ repetitionFronts

theorem RepeatsNothing.head?_ne {t : Text} (h : RepeatsNothing t) : t.head? ≠ some '?' :=
  fun hmark => h '?' hmark (by decide)

theorem RepeatsNothing.repetitionMark {t : Text} (h : RepeatsNothing t) :
    Pattern.repetitionMark t = .absent := by
  match t with
  | [] => rfl
  | c :: t =>
    have hc := h c rfl
    simp only [repetitionFronts, List.mem_cons, List.not_mem_nil, or_false, not_or] at hc
    rw [Pattern.repetitionMark]
    all_goals simp [hc]

/-- Only a count of at most once starts with a question mark. -/
theorem Quantifier.head?_text {q r : Quantifier} (h : q.mayPrecede r = true) (rest : Text) :
    q.isLazy = true ∨ (r.text ++ rest).head? ≠ some '?' := by
  rw [mayPrecede, Bool.or_eq_true] at h
  refine h.imp_right fun hcount => ?_
  rw [text]
  cases hr : r.count <;> simp_all [Count.text]

/-- Repetitions are read one behind the other, and each repeats what was read before it. -/
theorem repeated?_quantifiers {qs : List Quantifier} (hqs : areSeparate qs = true) {item : Node}
    (hitem : item.isRepeatable = true) {rest : Text} (hrest : RepeatsNothing rest) {b : Nat}
    (hb : qs.length < b) :
    repeated? b item (qs.flatMap Quantifier.text ++ rest)
      = some (qs.foldl Quantifier.node item, rest) := by
  induction qs generalizing item b with
  | nil =>
    obtain ⟨b, rfl⟩ := Nat.exists_eq_add_one_of_ne_zero (Nat.ne_zero_of_lt hb)
    rw [List.flatMap_nil, List.nil_append, repeated?, hrest.repetitionMark]
    rfl
  | cons q qs ih =>
    obtain ⟨b, rfl⟩ := Nat.exists_eq_add_one_of_ne_zero (Nat.ne_zero_of_lt hb)
    have hnext : areSeparate qs = true
        ∧ (q.isLazy = true ∨ (qs.flatMap Quantifier.text ++ rest).head? ≠ some '?') := by
      cases qs with
      | nil => exact ⟨rfl, .inr hrest.head?_ne⟩
      | cons r qs =>
        rw [areSeparate, Bool.and_eq_true] at hqs
        refine ⟨hqs.2, ?_⟩
        rw [List.flatMap_cons, List.append_assoc]
        exact Quantifier.head?_text hqs.1 _
    rw [List.flatMap_cons, List.append_assoc, repeated?, q.repetitionMark hnext.2]
    dsimp only
    rw [if_pos hitem]
    exact ih hnext.1 rfl (Nat.lt_of_succ_lt_succ hb)

/-- There are no more repetitions than characters to write them. -/
theorem Quantifiers.length_list_le (qs : Quantifiers) : qs.list.length ≤ qs.text.length := by
  have hone : ∀ q : Quantifier, 1 ≤ q.text.length := by
    intro q
    rw [Quantifier.text, List.length_append]
    cases q.count <;> simp [Count.text] <;> omega
  rw [text]
  induction qs.list with
  | nil => exact Nat.le_refl 0
  | cons q qs ih =>
    rw [List.flatMap_cons, List.length_append, List.length_cons]
    exact Nat.add_comm qs.length 1 ▸ Nat.add_le_add (hone q) ih

/-! ## What stands behind repetitions -/

/-- What may not stand at the front of an item of a pattern: it would repeat what stands before, or
end the sequence. -/
def notInFrontOfAtom : Text := repetitionFronts ++ ['|', ')']

/-- What may stand at the front of an item repeats nothing. -/
theorem repeatsNothing_cons {c : Char} (hc : c ∉ notInFrontOfAtom) (t : Text) :
    RepeatsNothing (c :: t) := by
  intro d hd hmem
  obtain rfl : c = d := Option.some.inj hd
  exact hc (List.mem_append_left _ hmem)

/-- A bar or a closing bracket repeats nothing. -/
theorem repeatsNothing_end {t : Text} (h : ∀ c ∈ t.head?, c = '|' ∨ c = ')') :
    RepeatsNothing t := by
  intro c hc
  rcases h c hc with rfl | rfl
  · decide
  · decide

/-- Leaves that can be items: when the classes are written out, none of them starts like a
repetition or like the end of a sequence. -/
class Fronted (Leaf : Type) [Written Leaf] : Prop where
  front : ∀ l : Leaf, ∃ c tail, Written.written classText l = c :: tail ∧ c ∉ notInFrontOfAtom

section Fronted

variable {Leaf Name : Type} [Written Leaf] [Written Name] [Fronted Leaf]

theorem Atom.front (a : Atom Leaf Name) :
    ∃ c tail, a.written classText = c :: tail ∧ c ∉ notInFrontOfAtom := by
  cases a with
  | leaf l => exact Fronted.front l
  | group _ _ => exact ⟨_, _, rfl, by decide⟩

theorem Atom.length_written_pos (a : Atom Leaf Name) : 0 < (a.written classText).length := by
  obtain ⟨c, tail, htext, -⟩ := a.front
  rw [htext]
  exact Nat.succ_pos _

/-- Whatever comes behind a repetition in a pattern repeats nothing. -/
theorem Sequence.repeatsNothing (s : Sequence Leaf Name) {rest : Text}
    (hrest : RepeatsNothing rest) : RepeatsNothing (s.written classText ++ rest) := by
  cases s with
  | nil => exact hrest
  | cons first quantifiers others =>
    obtain ⟨c, tail, htext, hc⟩ := first.front
    rw [written, htext]
    exact repeatsNothing_cons hc _

theorem Alternation.repeatsNothing (p : Alternation Leaf Name) {rest : Text}
    (hrest : RepeatsNothing rest) : RepeatsNothing (p.written classText ++ rest) := by
  cases p with
  | one s => exact s.repeatsNothing hrest
  | cons first others =>
    rw [written, List.append_assoc]
    exact first.repeatsNothing (repeatsNothing_end (by simp))

end Fronted

/-- Nothing that does not start with a question mark says more about a group. -/
theorem RepeatsNothing.groupFront? {t : Text} (h : RepeatsNothing t) :
    Pattern.groupFront? t = some (.body none {} t) := by
  have hne : ∀ t', t ≠ '?' :: t' := by
    rintro t' rfl
    exact h.head?_ne rfl
  unfold Pattern.groupFront?
  split
  · exact absurd rfl (hne _)
  · exact absurd rfl (hne _)
  · exact absurd rfl (hne _)
  · exact absurd rfl (hne _)
  · exact absurd rfl (hne _)
  · rfl

/-- The end of a sequence. -/
theorem sequence?_nil {rest : Text} (hrest : ∀ c ∈ rest.head?, c = '|' ∨ c = ')') (b : Nat) :
    sequence? (b + 1) rest = some (.empty, rest) := by
  rw [sequence?, if_pos]
  cases rest with
  | nil => rfl
  | cons c rest =>
    rcases hrest c rfl with rfl | rfl <;> rfl

end Gazetteer.Pattern
