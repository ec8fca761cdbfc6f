/-
# Gazetteer.Proofs.Pattern.Language -- which parts of a text a pattern matches

Whether a pattern matches a part of a text can depend on what stands before and behind that part: a
caret asks for the start of the text. So the language of a pattern is a relation between three
texts, the word and its two neighbours, and putting languages one behind the other shifts the words
already matched to the left neighbour. Nothing here says how a match is found.
-/
import Gazetteer.Pattern.Regex

namespace Gazetteer.Pattern

/-- The words that match, each between a text before it and a text behind it. -/
abbrev Language := Text → Text → Text → Prop

namespace Language

/-! ## Languages from languages -/

/-- The empty word at a place where a condition holds of the texts around it. -/
def place (condition : Text → Text → Prop) : Language :=
  fun before word after => word = [] ∧ condition before after

/-- The empty word anywhere. -/
def empty : Language := place fun _ _ => True

/-- The one-letter words whose letter passes a test. -/
def one (test : Char → Bool) : Language := fun _ word _ => ∃ c, word = [c] ∧ test c = true

/-- A word of the one language and right behind it a word of the other. -/
def followedBy (L M : Language) : Language := fun before word after =>
  ∃ u v, word = u ++ v ∧ L before u (v ++ after) ∧ M (before ++ u) v after

/-- The words of either language. -/
def either (L M : Language) : Language :=
  fun before word after => L before word after ∨ M before word after

/-- A number of words of a language, one behind the other. -/
def power (L : Language) : Nat → Language
  | 0 => empty
  | n + 1 => L.followedBy (L.power n)

/-- At least `least` words of a language, and at most `most` if there is a bound. -/
def repeated (least : Nat) (most : Option Nat) (L : Language) : Language :=
  fun before word after => ∃ n, least ≤ n ∧ (∀ m ∈ most, n ≤ m) ∧ L.power n before word after

/-- Some part of a text matches. -/
def OccursIn (L : Language) (t : Text) : Prop :=
  ∃ before word after, t = before ++ (word ++ after) ∧ L before word after

/-! ## Laws -/

theorem empty_iff {before word after : Text} : empty before word after ↔ word = [] :=
  and_iff_left trivial

@[simp] theorem empty_followedBy (L : Language) : empty.followedBy L = L := by
  ext before word after
  constructor
  · rintro ⟨u, v, rfl, hu, hv⟩
    obtain rfl := empty_iff.mp hu
    rwa [List.append_nil] at hv
  · exact fun h => ⟨[], word, rfl, empty_iff.mpr rfl, by rwa [List.append_nil]⟩

@[simp] theorem followedBy_empty (L : Language) : L.followedBy empty = L := by
  ext before word after
  constructor
  · rintro ⟨u, v, rfl, hu, hv⟩
    obtain rfl := empty_iff.mp hv
    rwa [List.append_nil]
  · exact fun h => ⟨word, [], (List.append_nil word).symm, h, empty_iff.mpr rfl⟩

theorem followedBy_assoc (L M N : Language) :
    (L.followedBy M).followedBy N = L.followedBy (M.followedBy N) := by
  ext before word after
  constructor
  · rintro ⟨_, w, rfl, ⟨u, v, rfl, hu, hv⟩, hw⟩
    rw [← List.append_assoc] at hu hw
    exact ⟨u, v ++ w, List.append_assoc u v w, hu, v, w, rfl, hv, hw⟩
  · rintro ⟨u, _, rfl, hu, v, w, rfl, hv, hw⟩
    rw [List.append_assoc] at hu hw
    exact ⟨u ++ v, w, (List.append_assoc u v w).symm, ⟨u, v, rfl, hu, hv⟩, hw⟩

/-- Some words and then some more words are that many words together. -/
theorem power_add (L : Language) (a b : Nat) :
    L.power (a + b) = (L.power a).followedBy (L.power b) := by
  induction a with
  | zero => rw [Nat.zero_add, power, empty_followedBy]
  | succ a ih => rw [Nat.add_right_comm, power, power, ih, followedBy_assoc]

/-- Words that may each be left out are at most that many words. -/
theorem power_empty_either (L : Language) (n : Nat) :
    (empty.either L).power n = L.repeated 0 (some n) := by
  ext before word after
  simp only [repeated, Nat.zero_le, true_and, Option.mem_some_iff, forall_eq']
  induction n generalizing before word with
  | zero =>
    constructor
    · exact fun h => ⟨0, Nat.le_refl 0, h⟩
    · rintro ⟨k, hk, h⟩
      rwa [Nat.le_zero.mp hk] at h
  | succ n ih =>
    constructor
    · rintro ⟨u, v, rfl, hu, hv⟩
      obtain ⟨k, hk, h⟩ := (ih _ _).mp hv
      rcases hu with hu | hu
      · obtain rfl := empty_iff.mp hu
        exact ⟨k, Nat.le_succ_of_le hk, by rwa [List.append_nil] at h⟩
      · exact ⟨k + 1, Nat.succ_le_succ hk, u, v, rfl, hu, h⟩
    · rintro ⟨k, hk, h⟩
      cases k with
      | zero =>
        refine ⟨[], word, rfl, .inl (empty_iff.mpr rfl), (ih _ _).mpr ⟨0, Nat.zero_le n, ?_⟩⟩
        rwa [List.append_nil]
      | succ k =>
        obtain ⟨u, v, rfl, hu, hv⟩ := h
        exact ⟨u, v, rfl, .inr hu, (ih _ _).mpr ⟨k, Nat.le_of_succ_le_succ hk, hv⟩⟩

/-- A repetition is first as many words as there must be, and then those that there may be. -/
theorem repeated_eq (L : Language) (least : Nat) (most : Option Nat) :
    L.repeated least (most.map (max least))
      = (L.power least).followedBy (L.repeated 0 (most.map (· - least))) := by
  have hbound : ∀ k, (∀ m ∈ most.map (max least), least + k ≤ m)
      ↔ ∀ m ∈ most.map (· - least), k ≤ m := by
    intro k
    cases most with
    | none => simp
    | some m =>
      simp only [Option.map_some, Option.mem_some_iff, forall_eq']
      omega
  ext before word after
  constructor
  · rintro ⟨n, hleast, hmost, h⟩
    obtain ⟨k, rfl⟩ := Nat.exists_eq_add_of_le hleast
    rw [power_add] at h
    obtain ⟨u, v, rfl, hu, hv⟩ := h
    exact ⟨u, v, rfl, hu, k, Nat.zero_le k, (hbound k).mp hmost, hv⟩
  · rintro ⟨u, v, rfl, hu, k, -, hmost, hv⟩
    refine ⟨least + k, Nat.le_add_right least k, (hbound k).mpr hmost, ?_⟩
    rw [power_add]
    exact ⟨u, v, rfl, hu, hv⟩

end Language

/-! ## The language of a pattern -/

/-- The language of a pattern. A bound below the least number counts as the least number. -/
def Regex.Matches : Regex → Language
  | .empty => .empty
  | .one test => .one test
  | .anchor a => .place fun before after => a.holds before.getLast? after.head? = true
  | .sequence a b => a.Matches.followedBy b.Matches
  | .alternation a b => a.Matches.either b.Matches
  | .repetition least most body => body.Matches.repeated least (most.map (max least))

end Gazetteer.Pattern
