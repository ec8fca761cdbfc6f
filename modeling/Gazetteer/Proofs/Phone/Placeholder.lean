/-
# Gazetteer.Proofs.Phone.Placeholder -- a placeholder is a mask filled with zeros

A placeholder replaces every slot of a mask by a zero, wherever it stands, and evens out the white
space by taking the text apart into words. Filling goes through mask and digits at once and drops
the decoration behind the last digit. With as many zeros as slots both show the same text, once the
decoration behind the last slot is put back, so the placeholder is made of the words of that text.

A word holds no white space, so the words and the zeros in them can be counted in the mask.
-/
import Gazetteer.Proofs.Phone.Positions
import Gazetteer.Proofs.Text.Words

namespace Gazetteer.Phone.Mask

/-! ## Zeros in the slots -/

/-- A zero in place of a slot; decoration stays. -/
def zeroed (c : Char) : Char := if c == slot then '0' else c

theorem placeholder_eq (m : Mask) :
    m.placeholder = Text.joined [' '] (Text.words (m.text.map zeroed)) := rfl

theorem zeroed_slot : zeroed slot = '0' := rfl

theorem zeroed_of_ne {c : Char} (hc : c ≠ slot) : zeroed c = c :=
  if_neg (by simpa using hc)

theorem map_zeroed_of_notMem {t : Text} (h : slot ∉ t) : t.map zeroed = t := by
  have hsame : ∀ c ∈ t, zeroed c = id c := by
    intro c hc
    apply zeroed_of_ne
    rintro rfl
    exact h hc
  rw [List.map_congr_left hsame, List.map_id]

theorem slot_notMem_map_zeroed (t : Text) : slot ∉ t.map zeroed := by
  intro h
  obtain ⟨c, -, hc⟩ := List.mem_map.mp h
  unfold zeroed at hc
  split at hc
  · exact absurd hc (by decide)
  · rename_i hne
    exact hne (by rw [hc, beq_self_eq_true])

theorem count_map_zeroed (t : Text) :
    (t.map zeroed).count '0' = t.count '0' + t.count slot := by
  induction t with
  | nil => rfl
  | cons c t ih =>
    by_cases hc : c = slot
    · subst hc
      have hzero : slot ≠ '0' := by decide
      rw [List.map_cons, zeroed_slot, List.count_cons_self, List.count_cons_self,
        List.count_cons_of_ne hzero, ih, Nat.add_assoc]
    · rw [List.map_cons, zeroed_of_ne hc, List.count_cons, List.count_cons,
        List.count_cons_of_ne hc, ih]
      omega

/-- A mask filled with zeros only has a zero in each of its slots. -/
theorem Filled.eq_map_zeroed {front digits out : Text} (h : Filled front digits out)
    (hzero : ∀ d ∈ digits, d = '0') : out = front.map zeroed := by
  induction h with
  | nil => rfl
  | digit d _ ih =>
    obtain ⟨hd, hdigits⟩ := List.forall_mem_cons.mp hzero
    rw [List.map_cons, zeroed_slot, hd, ih hdigits]
  | decoration hc _ ih => rw [List.map_cons, zeroed_of_ne hc, ih hzero]

/-- Filling with as many zeros as slots leaves nothing out but the decoration behind the last
slot. -/
theorem fill_zeros_append_tail (m : Mask) :
    m.fill (List.replicate m.slots '0') ++ m.tail = m.text.map zeroed := by
  have hlength : (List.replicate m.slots '0').length = m.slots := List.length_replicate
  obtain ⟨front, behind, hcut, hfilled⟩ := exists_cutBehind (Nat.le_of_eq hlength)
  rw [hlength] at hcut
  have hzero : ∀ d ∈ List.replicate m.slots '0', d = '0' := fun d hd => List.eq_of_mem_replicate hd
  rw [hfilled.eq_map_zeroed hzero, hcut.tail_eq, hcut.whole, List.map_append,
    map_zeroed_of_notMem hcut.slot_notMem]

/-! ## The placeholder -/

/-- The placeholder holds what the mask does, with zeros in its slots, but for the white space. -/
theorem content_placeholder (m : Mask) :
    Text.content m.placeholder = Text.content (m.text.map zeroed) := by
  rw [placeholder_eq, Text.content_joined fun _ => Text.isWord_of_mem_words, Text.flatten_words]

theorem mem_map_zeroed_of_mem_placeholder {m : Mask} {c : Char} (h : c ∈ m.placeholder)
    (hc : Text.isBlankChar c = false) : c ∈ m.text.map zeroed := by
  have hcontent : c ∈ Text.content m.placeholder := List.mem_filter.mpr ⟨h, by simp [hc]⟩
  rw [content_placeholder] at hcontent
  exact List.mem_of_mem_filter hcontent

theorem count_placeholder (m : Mask) {c : Char} (hc : Text.isBlankChar c = false) :
    m.placeholder.count c = (m.text.map zeroed).count c := by
  have hcount : ∀ t : Text, (Text.content t).count c = t.count c :=
    fun t => List.count_filter (by simp [hc])
  rw [← hcount, content_placeholder, hcount]

/-- **Placeholder and filling show the same shape.** The placeholder of a mask is the mask filled
with one zero for each slot, followed by the decoration behind its last slot, with its words joined
by single spaces. It holds no slot, no two neighbouring white-space characters and none at its ends,
and one zero more than the mask for each slot. -/
theorem placeholder_filled (m : Mask) :
    placeholder? (some m.text) = some m.placeholder
      ∧ m.placeholder = Text.joined [' ']
        (((m.fill (List.replicate m.slots '0') ++ m.tail).splitOnP Text.isBlankChar).filter
          (fun w => !w.isEmpty))
      ∧ slot ∉ m.placeholder
      ∧ (∀ front c d back, m.placeholder = front ++ c :: d :: back →
        Text.isBlankChar c = false ∨ Text.isBlankChar d = false)
      ∧ (∀ c ∈ m.placeholder.head?, Text.isBlankChar c = false)
      ∧ (∀ c ∈ m.placeholder.getLast?, Text.isBlankChar c = false)
      ∧ m.placeholder.count '0' = m.text.count '0' + m.slots := by
  have hwords : ∀ w ∈ Text.words (m.text.map zeroed), w.IsWord :=
    fun w => Text.isWord_of_mem_words
  refine ⟨?_, ?_, ?_, ?_, ?_, ?_, ?_⟩
  · rw [placeholder?, Option.bind_some, ofText?_text, Option.map_some]
  · rw [fill_zeros_append_tail, ← Text.words_eq_splitOnP, placeholder_eq]
  · intro h
    exact slot_notMem_map_zeroed m.text (mem_map_zeroed_of_mem_placeholder h (by decide))
  · intro front c d back hparts
    have hsingle : Text.Single m.placeholder := Text.single_joined hwords
    rw [hparts] at hsingle
    exact hsingle.apart
  · exact Text.head?_joined hwords
  · exact Text.getLast?_joined hwords
  · rw [count_placeholder m (by decide), count_map_zeroed, slots]

/-- A mask with a zero of its own, decoration behind its last slot, and white space of several
kinds. -/
theorem placeholder_filled_decorated :
    let m : Mask := ⟨"\u2003+0 ##\u00a0 (#)\u3000!\t", by decide⟩
    placeholder? (some m.text) = some "+0 00 (0) !".toList
      ∧ m.fill (List.replicate m.slots '0') = "\u2003+0 00\u00a0 (0".toList
      ∧ m.tail = ")\u3000!\t".toList
      ∧ m.placeholder.count '0' = 1 + m.slots
      ∧ (Text.isBlankChar '0' = false ∨ Text.isBlankChar ' ' = false) := by
  intro m
  obtain ⟨hwhole, hwords, -, hapart, -, -, hcount⟩ := placeholder_filled m
  have hplaceholder : m.placeholder = "+0 00 (0) !".toList := hwords.trans (by decide +kernel)
  refine ⟨?_, by decide, by decide, ?_, ?_⟩
  · rw [hwhole, hplaceholder]
  · rw [hcount]
    rfl
  · exact hapart "+" '0' ' ' "00 (0) !" hplaceholder

end Gazetteer.Phone.Mask
