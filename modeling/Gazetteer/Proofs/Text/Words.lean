/-
# Gazetteer.Proofs.Text.Words -- the words of a text

The words of a text are read from its back: in front of the words found so far stands one that is
still growing, and white space ends it. From outside, they are what is left of cutting the text at
each of its white-space characters when empty pieces are dropped. No word is empty or holds white
space, and together the words are the text without its white space. So words with one space between
neighbours make a text with single white space inside, none at its ends, and the same content.
-/
import Gazetteer.Proofs.Text.Tidy

namespace Gazetteer.Text

variable {c : Char} {t w : Text} {ws : List Text}

/-! ## Reading words -/

/-- White space ends the word in front. -/
theorem wordsFrom_blank (hc : isBlankChar c = true) (t : Text) :
    wordsFrom (c :: t) = ([], words t) := by
  show (if isBlankChar c then _ else _) = _
  rw [if_pos hc]
  rfl

/-- Any other character belongs to the word in front. -/
theorem wordsFrom_solid (hc : isBlankChar c = false) (t : Text) :
    wordsFrom (c :: t) = (c :: (wordsFrom t).1, (wordsFrom t).2) := by
  show (if isBlankChar c then _ else _) = _
  rw [hc]
  rfl

theorem words_eq (t : Text) :
    words t = if (wordsFrom t).1.isEmpty then (wordsFrom t).2
      else (wordsFrom t).1 :: (wordsFrom t).2 := rfl

/-- The word in front is the first piece of the text cut at its white space, and the others are what
is not empty of the other pieces. -/
theorem splitOnP_wordsFrom (t : Text) : ∃ pieces : List Text,
    t.splitOnP isBlankChar = (wordsFrom t).1 :: pieces
      ∧ pieces.filter (fun w => !w.isEmpty) = (wordsFrom t).2 := by
  induction t with
  | nil => exact ⟨[], rfl, rfl⟩
  | cons c t ih =>
    obtain ⟨pieces, hsplit, hpieces⟩ := ih
    rw [List.splitOnP_cons_eq_if_modifyHead]
    cases hc : isBlankChar c with
    | true =>
      refine ⟨t.splitOnP isBlankChar, ?_, ?_⟩
      · rw [wordsFrom_blank hc, if_pos rfl]
      · rw [wordsFrom_blank hc, hsplit, List.filter_cons, hpieces, words_eq]
        cases (wordsFrom t).1 <;> rfl
    | false =>
      refine ⟨pieces, ?_, ?_⟩
      · rw [wordsFrom_solid hc, if_neg (by simp), hsplit, List.modifyHead_cons]
      · rw [wordsFrom_solid hc, hpieces]

/-- The words are the pieces between white space that are not empty. -/
theorem words_eq_splitOnP (t : Text) :
    words t = (t.splitOnP isBlankChar).filter (fun w => !w.isEmpty) := by
  obtain ⟨pieces, hsplit, hpieces⟩ := splitOnP_wordsFrom t
  rw [hsplit, List.filter_cons, hpieces, words_eq]
  cases (wordsFrom t).1 <;> rfl

/-! ## What words are -/

/-- No white space stands in the text. -/
def Solid (w : Text) : Prop := ∀ c ∈ w, isBlankChar c = false

/-- A text without white space that is not empty. -/
structure IsWord (w : Text) : Prop where
  ne_nil : w ≠ []
  solid : Solid w

theorem Solid.single (h : Solid w) : Single w := by
  apply List.Pairwise.isChain
  apply List.pairwise_of_forall_mem_list
  intro c hc d _
  exact bothBlank_eq_false (Or.inl (h c hc))

theorem Solid.content_eq (h : Solid w) : content w = w := by
  apply List.filter_eq_self.mpr
  intro c hc
  rw [h c hc]
  rfl

theorem isWord_wordsFrom (t : Text) :
    Solid (wordsFrom t).1 ∧ ∀ w ∈ (wordsFrom t).2, IsWord w := by
  induction t with
  | nil => exact ⟨by simp [Solid, wordsFrom], by simp [wordsFrom]⟩
  | cons c t ih =>
    obtain ⟨hfront, hbehind⟩ := ih
    cases hc : isBlankChar c with
    | true =>
      rw [wordsFrom_blank hc]
      refine ⟨by simp [Solid], fun w hw => ?_⟩
      rw [words_eq] at hw
      split at hw
      · exact hbehind w hw
      · rename_i hne
        rcases List.mem_cons.mp hw with rfl | hw
        · exact ⟨by simpa using hne, hfront⟩
        · exact hbehind w hw
    | false =>
      rw [wordsFrom_solid hc]
      refine ⟨fun d hd => ?_, hbehind⟩
      rcases List.mem_cons.mp hd with rfl | hd
      · exact hc
      · exact hfront d hd

theorem isWord_of_mem_words (h : w ∈ words t) : IsWord w := by
  obtain ⟨hfront, hbehind⟩ := isWord_wordsFrom t
  rw [words_eq] at h
  split at h
  · exact hbehind w h
  · rename_i hne
    rcases List.mem_cons.mp h with rfl | h
    · exact ⟨by simpa using hne, hfront⟩
    · exact hbehind w h

/-- The words together are the text without its white space. -/
theorem flatten_words (t : Text) : (words t).flatten = content t := by
  have hfrom : ∀ t, (wordsFrom t).1 ++ (wordsFrom t).2.flatten = (words t).flatten := by
    intro t
    rw [words_eq]
    split
    · rename_i hnil
      rw [List.isEmpty_iff.mp hnil, List.nil_append]
    · rw [List.flatten_cons]
  rw [← hfrom]
  induction t with
  | nil => rfl
  | cons c t ih =>
    cases hc : isBlankChar c with
    | true =>
      have hblank : content (c :: t) = content t := List.filter_cons_of_neg (by simp [hc])
      rw [wordsFrom_blank hc, List.nil_append, hblank, ← ih, hfrom]
    | false => rw [wordsFrom_solid hc, List.cons_append, content_cons hc, ih]

/-! ## Words with a space between neighbours -/

/-- Every word but the last is followed by a space. -/
@[elab_as_elim]
theorem joined_induction {motive : List Text → Text → Prop} (nil : motive [] [])
    (one : ∀ w, motive [w] w)
    (more : ∀ w v ws, motive (v :: ws) (joined [' '] (v :: ws)) →
      motive (w :: v :: ws) (w ++ ' ' :: joined [' '] (v :: ws))) (ws : List Text) :
    motive ws (joined [' '] ws) := by
  induction ws with
  | nil => exact nil
  | cons w ws ih =>
    cases ws with
    | nil =>
      rw [joined, List.intercalate_singleton]
      exact one w
    | cons v ws =>
      rw [joined, List.intercalate_cons_cons, List.append_assoc]
      exact more w v ws ih

theorem content_joined (h : ∀ w ∈ ws, IsWord w) : content (joined [' '] ws) = ws.flatten := by
  induction ws using joined_induction with
  | nil => rfl
  | one w => rw [(h w List.mem_cons_self).solid.content_eq, List.flatten_singleton]
  | more w v ws ih =>
    obtain ⟨hw, hrest⟩ := List.forall_mem_cons.mp h
    have hspace : content (' ' :: joined [' '] (v :: ws)) = content (joined [' '] (v :: ws)) := rfl
    rw [content_append, hspace, hw.solid.content_eq, ih hrest]
    rfl

theorem head?_joined (h : ∀ w ∈ ws, IsWord w) :
    ∀ c ∈ (joined [' '] ws).head?, isBlankChar c = false := by
  induction ws using joined_induction with
  | nil => simp
  | one w => exact fun c hc => (h w List.mem_cons_self).solid c (List.mem_of_mem_head? hc)
  | more w v ws ih =>
    intro c hc
    have hw : IsWord w := h w List.mem_cons_self
    rw [List.head?_append_of_ne_nil _ hw.ne_nil] at hc
    exact hw.solid c (List.mem_of_mem_head? hc)

theorem getLast?_joined (h : ∀ w ∈ ws, IsWord w) :
    ∀ c ∈ (joined [' '] ws).getLast?, isBlankChar c = false := by
  induction ws using joined_induction with
  | nil => simp
  | one w => exact fun c hc => (h w List.mem_cons_self).solid c (List.mem_of_getLast? hc)
  | more w v ws ih =>
    obtain ⟨-, hrest⟩ := List.forall_mem_cons.mp h
    have hne : joined [' '] (v :: ws) ≠ [] := by
      intro hnil
      have hcontent := content_joined hrest
      rw [hnil, List.flatten_cons] at hcontent
      exact (hrest v List.mem_cons_self).ne_nil (List.append_eq_nil_iff.mp hcontent.symm).1
    obtain ⟨d, rest, hjoined⟩ := List.exists_cons_of_ne_nil hne
    intro c hc
    rw [List.getLast?_append_of_ne_nil _ (List.cons_ne_nil _ _), hjoined,
      List.getLast?_cons_cons, ← hjoined] at hc
    exact ih hrest c hc

/-- Of joined words, no two spaces are neighbours. -/
theorem single_joined (h : ∀ w ∈ ws, IsWord w) : Single (joined [' '] ws) := by
  induction ws using joined_induction with
  | nil => exact List.isChain_nil
  | one w => exact (h w List.mem_cons_self).solid.single
  | more w v ws ih =>
    obtain ⟨hw, hrest⟩ := List.forall_mem_cons.mp h
    refine List.isChain_append.mpr ⟨hw.solid.single, ?_, fun c hc d _ => ?_⟩
    · refine List.isChain_cons.mpr ⟨fun d hd => ?_, ih hrest⟩
      exact bothBlank_eq_false (Or.inr (head?_joined hrest d hd))
    · exact bothBlank_eq_false (Or.inl (hw.solid c (List.mem_of_getLast? hc)))

end Gazetteer.Text
