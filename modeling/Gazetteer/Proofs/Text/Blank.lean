/-
# Gazetteer.Proofs.Text.Blank -- what trimming takes and what it leaves

A text is its trimmed form between two blank texts. It is trimmed when no white space stands at
either end; trimming gives a trimmed text and leaves such a text alone.
-/
import Mathlib.Data.List.Basic
import Gazetteer.Text.Blank

namespace Gazetteer.Text

/-! ## Trimmed texts -/

/-- No white space stands at either end. -/
def Trimmed (t : Text) : Prop :=
  (∀ c ∈ t.head?, isBlankChar c = false) ∧ ∀ c ∈ t.getLast?, isBlankChar c = false

@[simp]
theorem trimStart_nil : trimStart [] = [] := rfl

@[simp]
theorem trim_nil : trim [] = [] := rfl

theorem trimStart_eq_self {t : Text} (h : ∀ c ∈ t.head?, isBlankChar c = false) :
    trimStart t = t := by
  cases t with
  | nil => rfl
  | cons c t => exact List.dropWhile_cons_of_neg (by simp [h c (by simp)])

theorem trimEnd_eq_self {t : Text} (h : ∀ c ∈ t.getLast?, isBlankChar c = false) :
    trimEnd t = t := by
  have hback : ∀ c ∈ t.reverse.head?, isBlankChar c = false := by
    rwa [List.head?_reverse]
  have hrev : trimStart t.reverse = t.reverse := trimStart_eq_self hback
  rw [trimEnd, ← trimStart, hrev, List.reverse_reverse]

/-- A trimmed text is left alone. -/
theorem Trimmed.trim {t : Text} (h : Trimmed t) : trim t = t := by
  rw [Text.trim, trimStart_eq_self h.1, trimEnd_eq_self h.2]

theorem head?_trimStart (t : Text) : ∀ c ∈ (trimStart t).head?, isBlankChar c = false := by
  intro c hc
  have h := List.head?_dropWhile_not isBlankChar t
  rw [trimStart] at hc
  rw [hc] at h
  exact h

theorem getLast?_trimEnd (t : Text) : ∀ c ∈ (trimEnd t).getLast?, isBlankChar c = false := by
  intro c hc
  rw [trimEnd, List.getLast?_reverse] at hc
  exact head?_trimStart t.reverse c hc

/-! ## What is taken -/

theorem exists_trimStart (t : Text) : ∃ a, isBlank a = true ∧ t = a ++ trimStart t := by
  refine ⟨t.takeWhile isBlankChar, ?_, ?_⟩
  · exact List.all_takeWhile
  · exact (List.takeWhile_append_dropWhile).symm

theorem exists_trimEnd (t : Text) : ∃ b, isBlank b = true ∧ t = trimEnd t ++ b := by
  obtain ⟨a, ha, ht⟩ := exists_trimStart t.reverse
  refine ⟨a.reverse, ?_, ?_⟩
  · simpa [isBlank] using ha
  · rw [trimEnd, ← trimStart, ← List.reverse_append, ← ht, List.reverse_reverse]

/-- A text is its trimmed form between two blank texts. -/
theorem exists_trim (t : Text) :
    ∃ a b, isBlank a = true ∧ isBlank b = true ∧ t = a ++ (trim t ++ b) := by
  obtain ⟨a, ha, ht⟩ := exists_trimStart t
  obtain ⟨b, hb, hs⟩ := exists_trimEnd (trimStart t)
  refine ⟨a, b, ha, hb, ?_⟩
  rw [trim, ← hs, ← ht]

theorem trim_sublist (t : Text) : (trim t).Sublist t := by
  obtain ⟨a, b, -, -, ht⟩ := exists_trim t
  conv_rhs => rw [ht]
  exact (List.sublist_append_left _ b).trans (List.sublist_append_right a _)

/-- The trimmed form is trimmed. -/
theorem trimmed_trim (t : Text) : Trimmed (trim t) := by
  refine ⟨?_, getLast?_trimEnd (trimStart t)⟩
  intro c hc
  obtain ⟨b, -, hs⟩ := exists_trimEnd (trimStart t)
  have hstart : c ∈ (trimStart t).head? := by
    rw [hs, ← trim, List.head?_append, hc]
    rfl
  exact head?_trimStart t c hstart

@[simp]
theorem trim_trim (t : Text) : trim (trim t) = trim t := (trimmed_trim t).trim

/-! ## Blank texts at the ends -/

theorem trimStart_append {a : Text} (ha : isBlank a = true) (t : Text) :
    trimStart (a ++ t) = trimStart t :=
  List.dropWhile_append_of_pos (fun c hc => List.all_eq_true.mp ha c hc)

theorem trimEnd_append {b : Text} (hb : isBlank b = true) (t : Text) :
    trimEnd (t ++ b) = trimEnd t := by
  have hrev : isBlank b.reverse = true := by simpa [isBlank] using hb
  have h := trimStart_append hrev t.reverse
  rw [trimStart, trimStart] at h
  rw [trimEnd, trimEnd, List.reverse_append, h]

theorem trim_blank_append {a : Text} (ha : isBlank a = true) (t : Text) :
    trim (a ++ t) = trim t := by
  rw [trim, trimStart_append ha, trim]

/-- White space behind stays, unless there is nothing else. -/
theorem trimStart_append_blank {b : Text} (hb : isBlank b = true) (t : Text) :
    trimStart (t ++ b) = if trimStart t = [] then [] else trimStart t ++ b := by
  obtain ⟨a, ha, ht⟩ := exists_trimStart t
  split
  · rename_i hempty
    have hall : isBlank (t ++ b) = true := by
      rw [ht, hempty, List.append_nil, isBlank, List.all_append]
      exact Bool.and_eq_true_iff.mpr ⟨ha, hb⟩
    simpa using trimStart_append hall []
  -- What is left of `t` keeps the white space behind it from the front.
  · rename_i hne
    have hstart : trimStart (trimStart t ++ b) = trimStart t ++ b := by
      apply trimStart_eq_self
      intro c hc
      rw [List.head?_append_of_ne_nil _ hne] at hc
      exact head?_trimStart t c hc
    conv_lhs => rw [ht, List.append_assoc, trimStart_append ha]
    exact hstart

theorem trim_append_blank {b : Text} (hb : isBlank b = true) (t : Text) :
    trim (t ++ b) = trim t := by
  rw [trim, trimStart_append_blank hb, trim]
  split
  · rename_i hempty
    rw [hempty]
  · rw [trimEnd_append hb]

/-- Blank texts at the ends make no difference. -/
theorem trim_between {a b : Text} (ha : isBlank a = true) (hb : isBlank b = true) (t : Text) :
    trim (a ++ (t ++ b)) = trim t := by
  rw [trim_blank_append ha, trim_append_blank hb]

/-- A text is blank when nothing is left of it. -/
theorem trim_eq_nil_iff (t : Text) : trim t = [] ↔ isBlank t = true := by
  constructor
  · intro h
    obtain ⟨a, b, ha, hb, ht⟩ := exists_trim t
    rw [ht, h, List.nil_append, isBlank, List.all_append]
    exact Bool.and_eq_true_iff.mpr ⟨ha, hb⟩
  · intro h
    simpa using trim_append_blank h []

/-! ## Runs of white space -/

theorem trimStart_cons_blank {c : Char} (hc : isBlankChar c = true) (t : Text) :
    trimStart (c :: t) = trimStart t :=
  List.dropWhile_cons_of_pos hc

/-- Runs may be squeezed before the front is trimmed or after, in the middle of a run or not. -/
theorem trimStart_squeezeRuns (inRun : Bool) (t : Text) :
    trimStart (squeezeRuns inRun t) = squeezeRuns false (trimStart t) := by
  induction t generalizing inRun with
  | nil => rfl
  | cons c t ih =>
    cases hc : isBlankChar c with
    | false =>
      have hkeep : ∀ u, trimStart (c :: u) = c :: u :=
        fun u => trimStart_eq_self (by simp [hc])
      simp only [squeezeRuns, hc, hkeep, Bool.false_eq_true, if_false]
    | true =>
      have hshown : isBlankChar (if inRun then ' ' else c) = true := by
        cases inRun
        · exact hc
        · rfl
      simp only [squeezeRuns, hc, if_true, trimStart_cons_blank hc]
      split
      · exact ih true
      · rw [trimStart_cons_blank hshown, ih false]

theorem isBlank_squeezeRuns {b : Text} (hb : isBlank b = true) (inRun : Bool) :
    isBlank (squeezeRuns inRun b) = true := by
  have hnil : trimStart b = [] := by simpa using trimStart_append hb []
  obtain ⟨a, ha, ht⟩ := exists_trimStart (squeezeRuns inRun b)
  rwa [ht, trimStart_squeezeRuns, hnil, squeezeRuns, List.append_nil]

theorem trimEnd_blank {b : Text} (hb : isBlank b = true) : trimEnd b = [] :=
  trimEnd_append hb []

/-- What is trimmed from the back does not depend on what stands in front. -/
theorem trimEnd_append_congr {s t : Text} (h : trimEnd s = trimEnd t) (u : Text) :
    trimEnd (u ++ s) = trimEnd (u ++ t) := by
  obtain ⟨a, ha, hs⟩ := exists_trimEnd s
  obtain ⟨b, hb, ht⟩ := exists_trimEnd t
  rw [hs, ht, ← List.append_assoc, ← List.append_assoc, trimEnd_append ha, trimEnd_append hb, h]

/-- White space behind a text is trimmed with the run that it continues. -/
theorem trimEnd_squeezeRuns_append {b : Text} (hb : isBlank b = true) (inRun : Bool) (t : Text) :
    trimEnd (squeezeRuns inRun (t ++ b)) = trimEnd (squeezeRuns inRun t) := by
  induction t generalizing inRun with
  | nil => exact trimEnd_blank (isBlank_squeezeRuns hb inRun)
  | cons c t ih =>
    cases hc : isBlankChar c with
    | false =>
      simp only [List.cons_append, squeezeRuns, hc, Bool.false_eq_true, if_false]
      exact trimEnd_append_congr (ih false) [c]
    | true =>
      cases t with
      -- The run reaches to the end, with or without the white space behind.
      | nil =>
        have hboth : isBlank (c :: b) = true := by simpa [isBlank, hc] using hb
        have hone : isBlank [c] = true := by simp [isBlank, hc]
        rw [List.singleton_append, trimEnd_blank (isBlank_squeezeRuns hboth inRun),
          trimEnd_blank (isBlank_squeezeRuns hone inRun)]
      | cons d t =>
        have hsqueeze : ∀ u, squeezeRuns inRun (c :: d :: u)
            = if isBlankChar d then squeezeRuns true (d :: u)
              else (if inRun then ' ' else c) :: squeezeRuns false (d :: u) := by
          intro u
          rw [squeezeRuns, if_pos hc]
          rfl
        rw [List.cons_append, List.cons_append, hsqueeze, hsqueeze]
        split
        · exact ih true
        · exact trimEnd_append_congr (ih false) [_]

/-- Squeezing a run puts a space in its place, and nothing else is put in. -/
theorem mem_squeezeRuns {c : Char} {inRun : Bool} {t : Text} (h : c ∈ squeezeRuns inRun t) :
    c = ' ' ∨ c ∈ t := by
  induction t generalizing inRun with
  | nil => exact .inr h
  | cons d t ih =>
    have hrest : ∀ {b}, c ∈ squeezeRuns b t → c = ' ' ∨ c ∈ d :: t :=
      fun hc => (ih hc).imp_right (List.mem_cons_of_mem d)
    rw [squeezeRuns] at h
    split at h
    · split at h
      · exact hrest h
      · rcases List.mem_cons.mp h with rfl | hc
        · cases inRun <;> simp
        · exact hrest hc
    · rcases List.mem_cons.mp h with rfl | hc
      · exact .inr List.mem_cons_self
      · exact hrest hc

theorem mem_tidy {c : Char} {t : Text} (h : c ∈ tidy t) : c = ' ' ∨ c ∈ t :=
  mem_squeezeRuns ((trim_sublist _).subset h)

/-- Blank texts at the ends are tidied away. -/
theorem tidy_between {a b : Text} (ha : isBlank a = true) (hb : isBlank b = true) (t : Text) :
    tidy (a ++ (t ++ b)) = tidy t := by
  have htidy : ∀ u, tidy u = trimEnd (squeezeRuns false (trimStart u)) :=
    fun u => congrArg trimEnd (trimStart_squeezeRuns false u)
  rw [htidy, htidy, trimStart_append ha, trimStart_append_blank hb]
  split
  · rename_i hempty
    rw [hempty]
  · exact trimEnd_squeezeRuns_append hb false (trimStart t)

end Gazetteer.Text
