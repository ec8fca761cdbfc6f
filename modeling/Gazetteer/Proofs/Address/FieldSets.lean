/-
# Gazetteer.Proofs.Address.FieldSets -- sets of fields in canonical order

A set of fields is built up by putting one field after another into a list, at the place that the
order of mention in the type gives it. That order is the canonical one, so whatever is put in, in
whatever order and however often, the list holds it once and in canonical order. Two such lists with
the same fields are the same list.
-/
import Mathlib.Data.List.Lattice
import Mathlib.Data.List.Sort
import Gazetteer.Address.Field

namespace Gazetteer.Address.Field

/-! ## The order of fields -/

theorem mem_all (f : Field) : f ∈ Field.all := by
  cases f <;> decide

/-- The order of mention is the canonical order. -/
theorem compare_eq (f g : Field) : compare f g = compare f.rank g.rank := by
  have hall : ∀ f ∈ all, ∀ g ∈ all, compare f g = compare f.rank g.rank := by decide
  exact hall f f.mem_all g g.mem_all

theorem rank_injective {f g : Field} (h : f.rank = g.rank) : f = g := by
  unfold rank at h
  exact (List.idxOf_inj f.mem_all).mp h

/-- The fields stand in canonical order, none of them twice. -/
def Ascending (fs : List Field) : Prop := fs.Pairwise (fun f g => f.rank < g.rank)

theorem Ascending.nodup {fs : List Field} (h : Ascending fs) : fs.Nodup := by
  apply List.Pairwise.imp _ h
  rintro f g hless rfl
  exact Nat.lt_irrefl _ hless

/-- Lists in canonical order are told apart by their fields. -/
theorem Ascending.eq_of_mem_iff {fs gs : List Field} (hfs : Ascending fs) (hgs : Ascending gs)
    (h : ∀ f, f ∈ fs ↔ f ∈ gs) : fs = gs := by
  have hirrefl : Std.Irrefl (fun f g : Field => f.rank < g.rank) :=
    ⟨fun f => Nat.lt_irrefl f.rank⟩
  have hantisymm : Std.Antisymm (fun f g : Field => f.rank < g.rank) :=
    ⟨fun _ _ hless hmore => absurd hmore (Nat.lt_asymm hless)⟩
  exact List.Pairwise.eq_of_mem_iff hfs hgs h

/-! ## Putting fields into a set -/

variable {f g : Field} {set : List Field}

/-- A field is put in front of the first that comes behind it, unless it is there already. -/
theorem insertInto_cases (f g : Field) (set : List Field) :
    (f.rank < g.rank ∧ f.insertInto (g :: set) = f :: g :: set)
      ∨ (f = g ∧ f.insertInto (g :: set) = g :: set)
      ∨ (g.rank < f.rank ∧ f.insertInto (g :: set) = g :: f.insertInto set) := by
  rw [insertInto, compare_eq]
  cases hcompare : compare f.rank g.rank with
  | lt => exact .inl ⟨Nat.compare_eq_lt.mp hcompare, rfl⟩
  | eq => exact .inr (.inl ⟨rank_injective (Nat.compare_eq_eq.mp hcompare), rfl⟩)
  | gt => exact .inr (.inr ⟨Nat.compare_eq_gt.mp hcompare, rfl⟩)

theorem mem_insertInto : g ∈ f.insertInto set ↔ g = f ∨ g ∈ set := by
  induction set with
  | nil => exact List.mem_cons
  | cons h set ih =>
    obtain ⟨-, heq⟩ | ⟨rfl, heq⟩ | ⟨-, heq⟩ := insertInto_cases f h set
    · rw [heq, List.mem_cons]
    · rw [heq, List.mem_cons, or_self_left]
    · rw [heq, List.mem_cons, List.mem_cons, ih, or_left_comm]

theorem Ascending.insertInto (h : Ascending set) (f : Field) : Ascending (f.insertInto set) := by
  induction set with
  | nil => exact List.pairwise_singleton _ f
  | cons g set ih =>
    obtain ⟨hbehind, hset⟩ := List.pairwise_cons.mp h
    obtain ⟨hless, heq⟩ | ⟨-, heq⟩ | ⟨hless, heq⟩ := insertInto_cases f g set
    · rw [heq]
      refine List.pairwise_cons.mpr ⟨fun k hk => ?_, h⟩
      rcases List.mem_cons.mp hk with rfl | hk
      · exact hless
      · exact Nat.lt_trans hless (hbehind k hk)
    · rwa [heq]
    · rw [heq]
      refine List.pairwise_cons.mpr ⟨fun k hk => ?_, ih hset⟩
      rcases mem_insertInto.mp hk with rfl | hk
      · exact hless
      · exact hbehind k hk

/-! ## Collecting a set -/

theorem mem_foldl_insertInto (fs set : List Field) :
    g ∈ fs.foldl (fun set f => f.insertInto set) set ↔ g ∈ fs ∨ g ∈ set := by
  induction fs generalizing set with
  | nil => simp
  | cons f fs ih => rw [List.foldl_cons, ih, mem_insertInto, List.mem_cons, or_left_comm, or_assoc]

theorem Ascending.foldl_insertInto (fs : List Field) (h : Ascending set) :
    Ascending (fs.foldl (fun set f => f.insertInto set) set) := by
  induction fs generalizing set with
  | nil => exact h
  | cons f fs ih => exact ih (h.insertInto f)

theorem mem_collected {fs : List Field} : g ∈ collected fs ↔ g ∈ fs := by
  rw [collected, mem_foldl_insertInto, or_iff_left List.not_mem_nil]

theorem ascending_collected (fs : List Field) : Ascending (collected fs) :=
  Ascending.foldl_insertInto fs .nil

/-- The union of two sets, sorted, is in canonical order. -/
theorem ascending_mergeSort_union (fs : List Field) {gs : List Field} (h : Ascending gs) :
    Ascending ((fs ∪ gs).mergeSort (fun f g => f.rank ≤ g.rank)) := by
  have hsorted : ((fs ∪ gs).mergeSort (fun f g => f.rank ≤ g.rank)).Pairwise
      (fun f g => decide (f.rank ≤ g.rank) = true) := by
    apply List.pairwise_mergeSort
    · intro f g k
      simp only [decide_eq_true_eq]
      exact Nat.le_trans
    · intro f g
      simpa using Nat.le_total f.rank g.rank
  have hnodup : ((fs ∪ gs).mergeSort (fun f g => f.rank ≤ g.rank)).Nodup :=
    (List.mergeSort_perm _ _).nodup_iff.mpr (List.Nodup.union fs h.nodup)
  apply (hsorted.and hnodup).imp
  rintro f g ⟨hle, hne⟩
  exact Nat.lt_of_le_of_ne (of_decide_eq_true hle) fun heq => hne (rank_injective heq)

end Gazetteer.Address.Field
