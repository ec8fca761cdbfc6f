/-
# Gazetteer.Proofs.Text.Runs -- the longest runs of the characters of a kind

A text falls into its longest runs of the characters of a kind, white space or backslashes, and its
other characters one by one. There is one such way to take it apart, and it is found from the front:
a character of another kind stands alone, and a run ends where the text behind it starts with
another kind. What is claimed of a text run by run is shown along the same steps.
-/
import Mathlib.Data.List.SplitBy
import Gazetteer.Text.Basic

namespace Gazetteer.Text

variable {kind : Char → Bool}

/-- The longest runs of the characters of a kind, and the other characters one by one. -/
def runsOf (kind : Char → Bool) (t : Text) : List Text :=
  t.splitBy (fun c d => kind c && kind d)

/-- A character of another kind stands alone. -/
theorem runsOf_cons {c : Char} (hc : kind c = false) (t : Text) :
    runsOf kind (c :: t) = [c] :: runsOf kind t := by
  unfold runsOf
  rw [← List.singleton_append, List.splitBy_append]
  · rfl
  · intro d hd e _
    obtain rfl := Option.mem_some_iff.mp hd
    exact Bool.and_eq_false_iff.mpr (Or.inl hc)

/-- Characters of the kind are a run if another kind follows them. -/
theorem runsOf_run {run t : Text} (hne : run ≠ []) (hrun : ∀ c ∈ run, kind c = true)
    (ht : ∀ c ∈ t.head?, kind c = false) : runsOf kind (run ++ t) = run :: runsOf kind t := by
  have hchain : run.IsChain (fun c d => (kind c && kind d) = true) := by
    apply List.Pairwise.isChain
    apply List.pairwise_of_forall_mem_list
    intro c hc d hd
    exact Bool.and_eq_true_iff.mpr ⟨hrun c hc, hrun d hd⟩
  unfold runsOf
  rw [List.splitBy_append, List.splitBy_of_isChain hne hchain, List.singleton_append]
  intro c _ d hd
  exact Bool.and_eq_false_iff.mpr (Or.inr (ht d hd))

/-- Every text is put together from its end: from characters of another kind, and from runs that end
where the text behind them starts with another kind. -/
@[elab_as_elim]
theorem runsOf_induction (kind : Char → Bool) {motive : Text → Prop} (nil : motive [])
    (char : ∀ c t, kind c = false → motive t → motive (c :: t))
    (run : ∀ run t, run ≠ [] → (∀ c ∈ run, kind c = true) → (∀ c ∈ t.head?, kind c = false) →
      motive t → motive (run ++ t)) (t : Text) : motive t := by
  -- Behind a run the text is shorter, but it need not be the tail.
  induction hn : t.length using Nat.strongRecOn generalizing t with
  | ind n ih =>
    cases t with
    | nil => exact nil
    | cons c t =>
      rw [List.length_cons] at hn
      cases hc : kind c with
      | false => exact char c t hc (ih t.length (by omega) t rfl)
      | true =>
        have hparts : c :: t = (c :: t.takeWhile kind) ++ t.dropWhile kind := by
          rw [List.cons_append, List.takeWhile_append_dropWhile]
        have hrun : ∀ d ∈ c :: t.takeWhile kind, kind d = true := by
          intro d hd
          rcases List.mem_cons.mp hd with rfl | hd
          · exact hc
          · exact List.all_eq_true.mp List.all_takeWhile d hd
        have hrest : ∀ d ∈ (t.dropWhile kind).head?, kind d = false := by
          intro d hd
          have hnot := List.head?_dropWhile_not kind t
          rw [Option.mem_def.mp hd] at hnot
          simpa using hnot
        have hshort : (t.dropWhile kind).length ≤ t.length :=
          (List.dropWhile_suffix kind).length_le
        rw [hparts]
        exact run _ _ (List.cons_ne_nil c _) hrun hrest (ih _ (by omega) _ rfl)

end Gazetteer.Text
