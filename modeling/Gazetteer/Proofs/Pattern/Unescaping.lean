/-
# Gazetteer.Proofs.Pattern.Unescaping -- what becomes of the backslashes of a stored pattern

Doubled backslashes are made single from left to right, and a backslash that was taken is not taken
again. So what counts is how many backslashes stand one behind the other: a longest run of them is
halved, and of an odd run the last one stays. Nothing else changes, whatever stands around the run.
A pattern that was stored with its backslashes doubled is then read as it was, and a pattern is read
as it stands exactly if no two of its backslashes are neighbours.
-/
import Gazetteer.Proofs.Pattern.Expansion
import Gazetteer.Proofs.Text.Runs

namespace Gazetteer.Pattern

open Text (runsOf runsOf_cons runsOf_run runsOf_induction)

/-! ## Runs of backslashes -/

def isBackslash (c : Char) : Bool := c == '\\'

/-- Half of the backslashes of a run, rounded up; everything else as it is. -/
def halveRun (run : Text) : Text :=
  if '\\' ∈ run then List.replicate ((run.length + 1) / 2) '\\' else run

/-- A text with each longest run of backslashes halved. -/
def halved (t : Text) : Text := (runsOf isBackslash t).flatMap halveRun

theorem isBackslash_iff {c : Char} : isBackslash c = true ↔ c = '\\' := beq_iff_eq

theorem isBackslash_eq_false_iff {c : Char} : isBackslash c = false ↔ c ≠ '\\' :=
  beq_eq_false_iff_ne

theorem eq_replicate_of_isBackslash {run : Text} (h : ∀ c ∈ run, isBackslash c = true) :
    run = List.replicate run.length '\\' := by
  apply List.eq_replicate_iff.mpr
  exact ⟨rfl, fun c hc => isBackslash_iff.mp (h c hc)⟩

theorem halved_cons {c : Char} (hc : c ≠ '\\') (t : Text) : halved (c :: t) = c :: halved t := by
  have hkept : halveRun [c] = [c] := if_neg (by simpa using Ne.symm hc)
  unfold halved
  rw [runsOf_cons (isBackslash_eq_false_iff.mpr hc), List.flatMap_cons, hkept]
  rfl

theorem halved_run {run t : Text} (hne : run ≠ []) (hrun : ∀ c ∈ run, isBackslash c = true)
    (ht : ∀ c ∈ t.head?, isBackslash c = false) :
    halved (run ++ t) = List.replicate ((run.length + 1) / 2) '\\' ++ halved t := by
  have hmem : '\\' ∈ run := by
    obtain ⟨c, hc⟩ := List.exists_mem_of_ne_nil run hne
    rwa [← isBackslash_iff.mp (hrun c hc)]
  have hhalf : halveRun run = List.replicate ((run.length + 1) / 2) '\\' := if_pos hmem
  unfold halved
  rw [runsOf_run hne hrun ht, List.flatMap_cons, hhalf]

/-! ## Halving -/

/-- A run is halved in front of any text that does not go on with a backslash. -/
theorem unescape_run (n : Nat) {t : Text} (ht : ∀ c ∈ t.head?, isBackslash c = false) :
    unescape (List.replicate n '\\' ++ t) = List.replicate ((n + 1) / 2) '\\' ++ unescape t := by
  -- Two backslashes are taken at a time, so the step goes from `n` to `n + 2`.
  induction n using Nat.twoStepInduction with
  | zero => rfl
  | one =>
    show unescape ('\\' :: t) = '\\' :: unescape t
    cases t with
    | nil => rfl
    | cons c t =>
      have hc : c ≠ '\\' := isBackslash_eq_false_iff.mp (ht c rfl)
      rw [unescape]
      rintro rest - hrest
      exact hc (List.cons.inj hrest).1
  | more n ih _ =>
    have hhalf : (n + 2 + 1) / 2 = (n + 1) / 2 + 1 := by omega
    show '\\' :: unescape (List.replicate n '\\' ++ t) = _
    rw [ih, hhalf, List.replicate_succ, List.cons_append]

theorem unescape_eq_halved (t : Text) : unescape t = halved t := by
  induction t using runsOf_induction isBackslash with
  | nil => rfl
  | char c t hc ih =>
    have hc : c ≠ '\\' := isBackslash_eq_false_iff.mp hc
    rw [unescape_cons hc, halved_cons hc, ih]
  | run run t hne hrun ht ih =>
    rw [halved_run hne hrun ht, ← ih, ← unescape_run run.length ht,
      ← eq_replicate_of_isBackslash hrun]

/-! ## Texts that are left as they are -/

theorem length_unescape_le (t : Text) : (unescape t).length ≤ t.length := by
  fun_induction unescape t with
  | case1 rest ih =>
    show (unescape rest).length + 1 ≤ rest.length + 1 + 1
    omega
  | case2 c rest _ ih =>
    show (unescape rest).length + 1 ≤ rest.length + 1
    omega
  | case3 => exact le_rfl

/-- Exactly the texts without neighbouring backslashes are left as they are. -/
theorem unescape_eq_self_iff (t : Text) : unescape t = t ↔ ¬ ['\\', '\\'] <:+: t := by
  fun_induction unescape t with
  | case1 rest ih =>
    -- The text has become shorter by one.
    have hshort := length_unescape_le rest
    have hne : '\\' :: unescape rest ≠ '\\' :: '\\' :: rest := by
      intro h
      have hlength : (unescape rest).length + 1 = rest.length + 1 + 1 := congrArg List.length h
      omega
    exact iff_of_false hne (not_not_intro ⟨[], rest, rfl⟩)
  | case2 c rest hpair ih =>
    have hfront : ¬ ['\\', '\\'] <+: c :: rest := by
      rintro ⟨u, hu⟩
      obtain ⟨rfl, hrest⟩ := List.cons.inj hu
      exact hpair u rfl hrest.symm
    rw [List.infix_cons_iff, or_iff_right hfront, ← ih, List.cons.injEq, eq_self, true_and]
  | case3 => exact iff_of_true rfl (by simp)

/-! ## Unescaping -/

/-- **Unescaping undoes escaping, and halves each run.** A text whose backslashes were doubled comes
back as it was. In any text every longest run of backslashes is replaced by half as many, rounded
up, and everything else is kept in its place; so a text is left as it is exactly if no two of its
backslashes are neighbours. -/
theorem unescape_halves (t : Text) :
    unescape (escape t) = t
      ∧ unescape t = halved t
      ∧ (unescape t = t ↔ ¬ ['\\', '\\'] <:+: t) :=
  ⟨unescape_escape t, unescape_eq_halved t, unescape_eq_self_iff t⟩

/-- Runs of one, two, three and four backslashes, the last one at the end. -/
example : unescape "\\d\\\\d\\\\\\d\\\\\\\\" = "\\d\\d\\\\d\\\\".toList := by decide

end Gazetteer.Pattern
