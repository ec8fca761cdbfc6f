/-
# Gazetteer.Proofs.Pattern.Expansion -- what becomes of the text of a stored pattern

Records store a pattern with its backslashes doubled. Before it is read, backslashes are made
single, and a backslash with the letter of digits or word characters is written out as a class.
Writing out goes through a text once, so a part that ends between two escapes is written out by
itself, whatever follows it (`Expands`), and a pattern is written out part by part.
-/
import Gazetteer.Pattern.Stored

namespace Gazetteer.Pattern

/-! ## Doubled backslashes -/

theorem unescape_cons {c : Char} (hc : c ≠ '\\') (t : Text) :
    unescape (c :: t) = c :: unescape t := by
  rw [unescape]
  rintro _ rfl
  contradiction

/-- Making doubled backslashes single undoes doubling them. -/
theorem unescape_escape (t : Text) : unescape (escape t) = t := by
  induction t with
  | nil => rfl
  | cons c t ih =>
    rw [escape, List.flatMap_cons, ← escape]
    by_cases hc : c = '\\'
    · rw [hc, if_pos rfl]
      exact congrArg ('\\' :: ·) ih
    · rw [if_neg hc, List.singleton_append, unescape_cons hc, ih]

/-! ## Classes written out -/

/-- A text is written out as another, whatever follows it. -/
def Expands (a b : Text) : Prop := ∀ rest, expandClasses (a ++ rest) = b ++ expandClasses rest

theorem expandClasses_cons {c : Char} (hc : c ≠ '\\') (t : Text) :
    expandClasses (c :: t) = c :: expandClasses t := by
  rw [expandClasses]
  rintro _ _ rfl
  contradiction

namespace Expands

variable {a b a' b' : Text}

theorem append (h : Expands a b) (h' : Expands a' b') : Expands (a ++ a') (b ++ b') := by
  intro rest
  rw [List.append_assoc, h, h', List.append_assoc]

theorem nil : Expands [] [] := fun _ => rfl

theorem cons {c : Char} (hc : c ≠ '\\') (h : Expands a b) : Expands (c :: a) (c :: b) := by
  intro rest
  rw [List.cons_append, expandClasses_cons hc, h, List.cons_append]

/-- A text without backslashes is written out as it stands. -/
theorem plain (h : '\\' ∉ a) : Expands a a := by
  induction a with
  | nil => exact nil
  | cons c a ih =>
    rw [List.mem_cons, not_or] at h
    exact cons (Ne.symm h.1) (ih h.2)

theorem escape (c : Char) : Expands ['\\', c] (classText c) := fun _ => rfl

theorem flatMap {α : Type} {f g : α → Text} {xs : List α} (h : ∀ x ∈ xs, Expands (f x) (g x)) :
    Expands (xs.flatMap f) (xs.flatMap g) := by
  induction xs with
  | nil => exact nil
  | cons x xs ih =>
    rw [List.flatMap_cons, List.flatMap_cons]
    exact (h x List.mem_cons_self).append (ih fun y hy => h y (List.mem_cons_of_mem x hy))

theorem eq (h : Expands a b) : expandClasses a = b := by
  have hnil := h []
  rwa [List.append_nil, expandClasses, List.append_nil] at hnil

end Expands

/-! ## Compiled texts -/

/-- A stored pattern is compiled exactly if its text is within the limit on the size and is read as
a node, and then to what the node means. -/
theorem compile?_eq_some_iff [SizeLimit] {stored : Text} {r : Regex} :
    compile? stored = some r
      ↔ SizeLimit.fits (source stored) = true
        ∧ ∃ n, Node.ofText? (source stored) = some n ∧ (n.meaning {}).1 = r := by
  rw [compile?, Option.ite_none_right_eq_some, Option.map_eq_some_iff]

end Gazetteer.Pattern
