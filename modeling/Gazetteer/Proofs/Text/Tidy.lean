/-
# Gazetteer.Proofs.Text.Tidy -- what tidying makes of the white space in a text

Tidying goes through a text once and looks one character ahead. What comes of it is said here
without the walk: a text falls into its longest runs of white space and its other characters, every
run of two or more is replaced by one space, and the ends are trimmed. So nothing but white space is
lost, a white-space character that stands alone inside a text is kept, whatever it is, and a tidy
text is left as it is.
-/
import Gazetteer.Proofs.Text.Blank
import Gazetteer.Proofs.Text.Runs

namespace Gazetteer.Text

/-! ## Runs of white space -/

/-- Two neighbours that are in one run of white space. -/
def bothBlank (c d : Char) : Bool := isBlankChar c && isBlankChar d

/-- The longest runs of white space in a text, and its other characters one by one. -/
def runs (t : Text) : List Text := t.splitBy bothBlank

/-- One space in place of two or more characters. -/
def evenRun (run : Text) : Text := if 2 ≤ run.length then [' '] else run

/-- The text with every longest run of two or more white-space characters replaced by one space. -/
def evened (t : Text) : Text := (runs t).flatMap evenRun

theorem bothBlank_eq_false {c d : Char} (h : isBlankChar c = false ∨ isBlankChar d = false) :
    bothBlank c d = false := by
  rw [bothBlank, Bool.and_eq_false_iff]
  exact h

@[simp]
theorem evened_nil : evened [] = [] := rfl

/-- Texts that do not meet in white space are evened out one by one. -/
theorem evened_append {s t : Text} (h : ∀ c ∈ s.getLast?, ∀ d ∈ t.head?, bothBlank c d = false) :
    evened (s ++ t) = evened s ++ evened t := by
  unfold evened runs
  rw [List.splitBy_append h, List.flatMap_append]

theorem startsBlank_eq_false_iff {t : Text} :
    startsBlank t = false ↔ ∀ c ∈ t.head?, isBlankChar c = false := by
  cases t <;> simp [startsBlank]

/-- White space is a kind of characters, and its runs are the runs of that kind. -/
theorem evened_eq (t : Text) : evened t = (runsOf isBlankChar t).flatMap evenRun := rfl

theorem evened_cons {c : Char} (hc : isBlankChar c = false) (t : Text) :
    evened (c :: t) = c :: evened t := by
  rw [evened_eq, runsOf_cons hc, List.flatMap_cons, ← evened_eq]
  rfl

theorem evened_run {run t : Text} (hne : run ≠ []) (hrun : isBlank run = true)
    (ht : startsBlank t = false) : evened (run ++ t) = evenRun run ++ evened t := by
  rw [evened_eq, runsOf_run hne (List.all_eq_true.mp hrun) (startsBlank_eq_false_iff.mp ht),
    List.flatMap_cons, ← evened_eq]

/-- Every text is put together from its end: from characters that are not white space, and from runs
of white space that end where the text behind them starts. -/
@[elab_as_elim]
theorem run_induction {motive : Text → Prop} (nil : motive [])
    (char : ∀ c t, isBlankChar c = false → motive t → motive (c :: t))
    (run : ∀ run t, run ≠ [] → isBlank run = true → startsBlank t = false → motive t →
      motive (run ++ t)) (t : Text) : motive t := by
  induction t using runsOf_induction isBlankChar with
  | nil => exact nil
  | char c t hc ih => exact char c t hc ih
  | run r t hne hr ht ih =>
    exact run r t hne (List.all_eq_true.mpr hr) (startsBlank_eq_false_iff.mpr ht) ih

/-! ## The walk -/

/-- The walk takes a run as a whole; the flag says that the run has begun before. -/
theorem squeezeRuns_run {run rest : Text} (hne : run ≠ []) (hrun : isBlank run = true)
    (hrest : startsBlank rest = false) (inRun : Bool) :
    squeezeRuns inRun (run ++ rest)
      = (if inRun then [' '] else evenRun run) ++ squeezeRuns false rest := by
  induction run generalizing inRun with
  | nil => exact absurd rfl hne
  | cons c run ih =>
    rw [isBlank, List.all_cons, Bool.and_eq_true] at hrun
    cases run with
    | nil =>
      rw [List.singleton_append, squeezeRuns, if_pos hrun.1, if_neg (by simp [hrest])]
      cases inRun <;> rfl
    | cons d run =>
      have hd : isBlankChar d = true := (Bool.and_eq_true_iff.mp hrun.2).1
      have hlong : evenRun (c :: d :: run) = [' '] := if_pos (by simp)
      have hgoes : startsBlank (d :: run ++ rest) = true := hd
      rw [List.cons_append, squeezeRuns, if_pos hrun.1, if_pos hgoes,
        ih (List.cons_ne_nil d run) hrun.2, hlong, if_pos rfl, ite_self]

/-- The walk evens the text out. -/
theorem squeezeRuns_eq_evened (t : Text) : squeezeRuns false t = evened t := by
  induction t using run_induction with
  | nil => rfl
  | char c t hc ih => rw [squeezeRuns, hc, if_neg (by simp), ih, evened_cons hc]
  | run run t hne hrun ht ih =>
    rw [squeezeRuns_run hne hrun ht, if_neg (by simp), ih, evened_run hne hrun ht]

theorem tidy_eq_trim_evened (t : Text) : tidy t = trim (evened t) := by
  rw [tidy, squeezeRuns_eq_evened]

/-! ## Content -/

/-- The characters of a text that are not white space, in order. -/
def content (t : Text) : Text := t.filter (fun c => !isBlankChar c)

theorem content_append (s t : Text) : content (s ++ t) = content s ++ content t :=
  List.filter_append ..

theorem content_cons {c : Char} (hc : isBlankChar c = false) (t : Text) :
    content (c :: t) = c :: content t :=
  List.filter_cons_of_pos (by simp [hc])

theorem content_of_isBlank {t : Text} (h : isBlank t = true) : content t = [] := by
  apply List.filter_eq_nil_iff.mpr
  intro c hc
  simp [List.all_eq_true.mp h c hc]

theorem content_trimStart (t : Text) : content (trimStart t) = content t := by
  obtain ⟨a, ha, ht⟩ := exists_trimStart t
  conv_rhs => rw [ht, content_append, content_of_isBlank ha, List.nil_append]

theorem content_trimEnd (t : Text) : content (trimEnd t) = content t := by
  obtain ⟨b, hb, ht⟩ := exists_trimEnd t
  conv_rhs => rw [ht, content_append, content_of_isBlank hb, List.append_nil]

theorem content_evened (t : Text) : content (evened t) = content t := by
  induction t using run_induction with
  | nil => rfl
  | char c t hc ih => rw [evened_cons hc, content_cons hc, content_cons hc, ih]
  | run run t hne hrun ht ih =>
    have heven : isBlank (evenRun run) = true := by
      unfold evenRun
      split
      · rfl
      · exact hrun
    rw [evened_run hne hrun ht, content_append, content_append, content_of_isBlank heven,
      content_of_isBlank hrun, ih]

/-! ## Single white space -/

/-- No white space stands next to white space. -/
def Single (t : Text) : Prop := t.IsChain (fun c d => bothBlank c d = false)

theorem Single.inside {s t u : Text} (h : Single (s ++ (t ++ u))) : Single t :=
  (List.IsChain.right_of_append h).left_of_append

/-- Of two neighbours one is no white space. -/
theorem Single.apart {s u : Text} {c d : Char} (h : Single (s ++ c :: d :: u)) :
    isBlankChar c = false ∨ isBlankChar d = false := by
  have hpair : Single [c, d] := Single.inside (s := s) (u := u) h
  have hapart : bothBlank c d = false := (List.isChain_cons.mp hpair).1 d rfl
  exact Bool.and_eq_false_iff.mp hapart

theorem head?_evened {t : Text} (ht : startsBlank t = false) : (evened t).head? = t.head? := by
  cases t with
  | nil => rfl
  | cons c t =>
    rw [evened_cons ht]
    rfl

theorem single_evened (t : Text) : Single (evened t) := by
  induction t using run_induction with
  | nil => exact List.isChain_nil
  | char c t hc ih =>
    rw [evened_cons hc]
    refine List.isChain_cons.mpr ⟨?_, ih⟩
    intro d _
    exact bothBlank_eq_false (Or.inl hc)
  | run run t hne hrun ht ih =>
    have hone : ∃ c, evenRun run = [c] := by
      unfold evenRun
      split
      · exact ⟨' ', rfl⟩
      · apply List.length_eq_one_iff.mp
        have hpos := List.length_pos_iff.mpr hne
        omega
    obtain ⟨c, hc⟩ := hone
    rw [evened_run hne hrun ht, hc, List.singleton_append]
    refine List.isChain_cons.mpr ⟨?_, ih⟩
    rw [head?_evened ht]
    intro d hd
    cases t with
    | nil => exact absurd hd (by simp)
    | cons e t =>
      obtain rfl := Option.mem_some_iff.mp hd
      exact bothBlank_eq_false (Or.inr ht)

/-- Where no white space stands next to white space there is nothing to even out. -/
theorem Single.evened_eq {t : Text} (h : Single t) : evened t = t := by
  induction t with
  | nil => rfl
  | cons c t ih =>
    have hapart := (List.isChain_cons.mp h).1
    have hone : evened [c] = [c] := rfl
    rw [← List.singleton_append, evened_append, hone, ih (List.isChain_cons.mp h).2]
    intro d hd e he
    obtain rfl := Option.mem_some_iff.mp hd
    exact hapart e he

/-! ## Tidy texts -/

theorem trimStart_append_cons {c : Char} (hc : isBlankChar c = false) (s t : Text) :
    trimStart (s ++ c :: t) = trimStart s ++ c :: t := by
  have hstop : trimStart (c :: t) = c :: t := trimStart_eq_self (by simp [hc])
  unfold trimStart at hstop ⊢
  rw [List.dropWhile_append, hstop]
  split
  · rename_i hnone
    rw [List.isEmpty_iff.mp hnone]
    rfl
  · rfl

theorem trimEnd_append_cons {c : Char} (hc : isBlankChar c = false) (s t : Text) :
    trimEnd (s ++ c :: t) = s ++ c :: trimEnd t := by
  have hback := trimStart_append_cons hc t.reverse s.reverse
  unfold trimStart at hback
  unfold trimEnd
  rw [List.reverse_append, List.reverse_cons, List.append_assoc, List.singleton_append, hback]
  simp

/-- Inside a text the ends are out of reach. -/
theorem trim_inside {a b : Char} (ha : isBlankChar a = false) (hb : isBlankChar b = false)
    (s m t : Text) :
    trim (s ++ a :: (m ++ b :: t)) = trimStart s ++ a :: (m ++ b :: trimEnd t) := by
  have hfront : trimStart s ++ a :: (m ++ b :: t) = (trimStart s ++ a :: m) ++ b :: t := by
    rw [List.append_assoc, List.cons_append]
  rw [trim, trimStart_append_cons ha, hfront, trimEnd_append_cons hb, List.append_assoc,
    List.cons_append]

theorem evened_inside {a w b : Char} (ha : isBlankChar a = false) (hb : isBlankChar b = false)
    (s t : Text) :
    evened (s ++ a :: w :: b :: t) = evened s ++ a :: w :: b :: evened t := by
  have hone : evened [w] = [w] := rfl
  have hfront : ∀ c ∈ s.getLast?, ∀ d ∈ (a :: w :: b :: t).head?, bothBlank c d = false := by
    intro c _ d hd
    obtain rfl := Option.mem_some_iff.mp hd
    exact bothBlank_eq_false (Or.inr ha)
  have hback : ∀ c ∈ [w].getLast?, ∀ d ∈ (b :: t).head?, bothBlank c d = false := by
    intro c _ d hd
    obtain rfl := Option.mem_some_iff.mp hd
    exact bothBlank_eq_false (Or.inr hb)
  have hmiddle : evened (w :: b :: t) = w :: b :: evened t := by
    rw [← List.singleton_append, evened_append hback, hone, evened_cons hb, List.singleton_append]
  rw [evened_append hfront, evened_cons ha, hmiddle]

/-- How a text is tidied: what may be said of the tidy text by itself, and what it shares with the
text that it was. -/
structure TidyForm (t tidied : Text) : Prop where
  /-- No white space stands at either end. -/
  trimmed : Trimmed tidied
  /-- No two white-space characters are neighbours. -/
  single : ∀ s c d u, tidied = s ++ c :: d :: u →
    isBlankChar c = false ∨ isBlankChar d = false
  /-- Everything but white space is there, in the same order. -/
  content_eq : content tidied = content t
  /-- White space between two other characters is kept as it is, and where it is. -/
  kept : ∀ s a w b u, t = s ++ a :: w :: b :: u → isBlankChar a = false → isBlankChar w = true →
    isBlankChar b = false → ∃ s' u', tidied = s' ++ a :: w :: b :: u'
      ∧ content s' = content s ∧ content u' = content u
  /-- Tidying again changes nothing. -/
  again : trim (evened tidied) = tidied

/-- Evening out and trimming give the tidy form. -/
theorem tidyForm_trim_evened (t : Text) : TidyForm t (trim (evened t)) := by
  have hsingle : Single (trim (evened t)) := by
    obtain ⟨a, b, -, -, ht⟩ := exists_trim (evened t)
    have hwhole := single_evened t
    rw [ht] at hwhole
    exact hwhole.inside
  refine ⟨trimmed_trim _, ?_, ?_, ?_, ?_⟩
  · intro s c d u hparts
    rw [hparts] at hsingle
    exact hsingle.apart
  · rw [trim, content_trimEnd, content_trimStart, content_evened]
  · rintro s a w b u rfl ha - hb
    refine ⟨trimStart (evened s), trimEnd (evened u), ?_, ?_, ?_⟩
    · rw [evened_inside ha hb]
      exact trim_inside ha hb (evened s) [w] (evened u)
    · rw [content_trimStart, content_evened]
    · rw [content_trimEnd, content_evened]
  · rw [hsingle.evened_eq, trim_trim]

end Gazetteer.Text
