/-
# Gazetteer.Proofs.Pattern.Marks -- a run reaches exactly the places that a pattern reaches

A language takes places of a text to places: from `i` to `j` if a word of it stands between them.
A round, which takes marks to marks, follows a language if it marks exactly the places that the
language reaches from marked ones. Each way to build a pattern has its round, and a search is right
because the run of a pattern follows the language of the pattern.

A repetition without a bound goes round once for every place. That is enough: a round that adds a
mark leaves fewer places without one, and after a round that adds none no later one adds any.
-/
import Gazetteer.Proofs.Pattern.Language
import Mathlib.Logic.Function.Iterate

namespace Gazetteer.Pattern

/-! ## From place to place -/

namespace Language

variable {L M : Language} {t : Text} {i j : Nat}

/-- A word of the language stands between two places of a text. -/
def Spans (L : Language) (t : Text) (i j : Nat) : Prop :=
  ∃ before word after, t = before ++ (word ++ after)
    ∧ before.length = i ∧ (before ++ word).length = j ∧ L before word after

theorem Spans.mono (hLM : ∀ {before word after}, L before word after → M before word after)
    (h : L.Spans t i j) : M.Spans t i j := by
  obtain ⟨before, word, after, ht, hi, hj, hL⟩ := h
  exact ⟨before, word, after, ht, hi, hj, hLM hL⟩

/-- An empty word stands wherever its condition holds. -/
theorem spans_place_iff {condition : Text → Text → Prop} :
    (place condition).Spans t i j ↔ i = j ∧ i ≤ t.length ∧ condition (t.take i) (t.drop i) := by
  constructor
  · rintro ⟨before, word, after, rfl, rfl, rfl, rfl, h⟩
    simpa using h
  · rintro ⟨rfl, hi, h⟩
    exact ⟨t.take i, [], t.drop i, (List.take_append_drop i t).symm, List.length_take_of_le hi,
      by rw [List.append_nil, List.length_take_of_le hi], rfl, h⟩

theorem spans_empty_iff : empty.Spans t i j ↔ i = j ∧ i ≤ t.length := by
  rw [empty, spans_place_iff, and_true]

theorem spans_one_iff {test : Char → Bool} :
    (one test).Spans t i j ↔ j = i + 1 ∧ ∃ c, t[i]? = some c ∧ test c = true := by
  constructor
  · rintro ⟨before, word, after, rfl, rfl, rfl, c, rfl, hc⟩
    simpa using hc
  · rintro ⟨rfl, c, hi, hc⟩
    obtain ⟨hlt, rfl⟩ := List.getElem?_eq_some_iff.mp hi
    have hlength : (t.take i).length = i := List.length_take_of_le (Nat.le_of_lt hlt)
    refine ⟨t.take i, [t[i]], t.drop (i + 1), ?_, hlength, ?_, t[i], rfl, hc⟩
    · rw [List.singleton_append, List.getElem_cons_drop, List.take_append_drop]
    · rw [List.length_append, hlength, List.length_singleton]

/-- Two words one behind the other meet at a place. -/
theorem spans_followedBy_iff :
    (L.followedBy M).Spans t i j ↔ ∃ k, L.Spans t i k ∧ M.Spans t k j := by
  constructor
  · rintro ⟨before, _, after, rfl, hi, hj, u, v, rfl, hu, hv⟩
    refine ⟨(before ++ u).length, ⟨before, u, v ++ after, ?_, hi, rfl, hu⟩,
      before ++ u, v, after, ?_, rfl, ?_, hv⟩
    · rw [List.append_assoc]
    · simp only [List.append_assoc]
    · rwa [List.append_assoc]
  · rintro ⟨k, ⟨before, u, rest, ht, hi, hk, hu⟩, between, v, after, ht', hk', hj, hv⟩
    have hparts : (before ++ u) ++ rest = between ++ (v ++ after) := by
      rw [List.append_assoc, ← ht, ht']
    obtain ⟨rfl, rfl⟩ := List.append_inj hparts (hk.trans hk'.symm)
    refine ⟨before, u ++ v, after, ?_, hi, ?_, u, v, rfl, hu, hv⟩
    · rw [ht, List.append_assoc]
    · rwa [← List.append_assoc]

theorem spans_either_iff : (L.either M).Spans t i j ↔ L.Spans t i j ∨ M.Spans t i j := by
  constructor
  · rintro ⟨before, word, after, ht, hi, hj, h | h⟩
    · exact .inl ⟨before, word, after, ht, hi, hj, h⟩
    · exact .inr ⟨before, word, after, ht, hi, hj, h⟩
  · rintro (h | h)
    · exact h.mono .inl
    · exact h.mono .inr

theorem Spans.le_length (h : L.Spans t i j) : i ≤ t.length := by
  obtain ⟨before, word, after, rfl, rfl, -, -⟩ := h
  rw [List.length_append]
  exact Nat.le_add_right _ _

theorem occursIn_iff : L.OccursIn t ↔ ∃ i j, L.Spans t i j := by
  constructor
  · rintro ⟨before, word, after, ht, h⟩
    exact ⟨_, _, before, word, after, ht, rfl, rfl, h⟩
  · rintro ⟨i, j, before, word, after, ht, -, -, h⟩
    exact ⟨before, word, after, ht, h⟩

end Language

/-! ## Marks -/

namespace Marks

variable {m : Marks} {t : Text} {i j : Nat}

/-- Whether a place is marked. -/
def Has (m : Marks) (i : Nat) : Prop := m[i]? = some true

theorem has_union {a b : Marks} (h : a.length = b.length) :
    (a.union b).Has i ↔ a.Has i ∨ b.Has i := by
  rw [Has, Has, Has, union, List.getElem?_zipWith]
  rcases Nat.lt_or_ge i a.length with hi | hi
  · rw [List.getElem?_eq_getElem hi, List.getElem?_eq_getElem (h ▸ hi)]
    simp
  · rw [List.getElem?_eq_none hi, List.getElem?_eq_none (h ▸ hi)]
    simp

theorem has_advance {test : Char → Bool} :
    (m.advance test t).Has j ↔ ∃ i, m.Has i ∧ j = i + 1 ∧ ∃ c, t[i]? = some c ∧ test c = true := by
  cases j with
  | zero => simp [Has, advance]
  | succ i =>
    have hsucc : (m.advance test t).Has (i + 1)
        ↔ m.Has i ∧ ∃ c, t[i]? = some c ∧ test c = true := by
      rw [Has, Has, advance, List.getElem?_cons_succ, List.getElem?_zipWith]
      cases m[i]? <;> cases t[i]? <;> simp
    rw [hsucc]
    constructor
    · exact fun h => ⟨i, h.1, rfl, h.2⟩
    · rintro ⟨k, hk, hik, h⟩
      obtain rfl := Nat.succ.inj hik
      exact ⟨hk, h⟩

theorem neighbours_getElem? (hi : i ≤ t.length) :
    (neighbours t)[i]? = some ((t.take i).getLast?, (t.drop i).head?) := by
  have hbefore : (none :: t.map some)[i]? = some ((t.take i).getLast?) := by
    cases i with
    | zero => rfl
    | succ i => simp [List.getLast?_take, List.getElem?_eq_getElem hi]
  have hafter : (t.map some ++ [none])[i]? = some ((t.drop i).head?) := by
    rw [List.head?_drop]
    rcases Nat.lt_or_eq_of_le hi with hlt | rfl
    · simp [List.getElem?_append_left, hlt]
    · simp
  exact List.getElem?_zip_eq_some.mpr ⟨hbefore, hafter⟩

theorem length_neighbours : (neighbours t).length = t.length + 1 := by
  simp [neighbours]

theorem has_atAnchor {a : Anchor} :
    (m.atAnchor a t).Has i
      ↔ m.Has i ∧ i ≤ t.length ∧ a.holds (t.take i).getLast? (t.drop i).head? = true := by
  rw [Has, Has, atAnchor, List.getElem?_zipWith]
  rcases Nat.lt_or_ge t.length i with hi | hi
  · have hnone : (neighbours t)[i]? = none := List.getElem?_eq_none (by rwa [length_neighbours])
    rw [hnone]
    cases m[i]? <;> simp [Nat.not_le.mpr hi]
  · rw [neighbours_getElem? hi]
    cases m[i]? <;> simp [hi]

theorem any_iff : m.any id = true ↔ ∃ i, m.Has i := by
  rw [List.any_eq_true]
  constructor
  · rintro ⟨b, hb, rfl⟩
    exact List.mem_iff_getElem?.mp hb
  · rintro ⟨i, hi⟩
    exact ⟨true, List.mem_of_getElem? hi, rfl⟩

/-! ## Places without a mark -/

theorem union_cons (x y : Bool) (a b : Marks) :
    union (x :: a) (y :: b) = (x || y) :: union a b := rfl

/-- Marks are never lost in a union. -/
theorem count_union_le : ∀ {a b : Marks}, a.length = b.length →
    (union a b).count false ≤ a.count false
  | [], [], _ => Nat.le_refl 0
  | x :: a, y :: b, h => by
    have ih : (union a b).count false ≤ a.count false := count_union_le (Nat.succ.inj h)
    rw [union_cons, List.count_cons, List.count_cons]
    cases x with
    | true => simpa using ih
    | false => exact Nat.add_le_add ih (by split <;> simp)

/-- A union that is not the first set leaves fewer places without a mark. -/
theorem count_union_lt : ∀ {a b : Marks}, a.length = b.length → union a b ≠ a →
    (union a b).count false < a.count false
  | [], [], _, hne => absurd rfl hne
  | x :: a, y :: b, h, hne => by
    have hlength : a.length = b.length := Nat.succ.inj h
    rw [union_cons] at hne ⊢
    -- Either the first place gets a mark, or one of the others does.
    by_cases hxy : (x || y) = x
    · have hrest : union a b ≠ a := fun hab => hne (by rw [hxy, hab])
      rw [hxy, List.count_cons, List.count_cons]
      exact Nat.add_lt_add_right (count_union_lt hlength hrest) _
    · have hle := count_union_le hlength
      cases x with
      | true => exact absurd rfl hxy
      | false =>
        cases y with
        | false => exact absurd rfl hxy
        | true =>
          show (true :: union a b).count false < (false :: a).count false
          rw [List.count_cons_of_ne (by decide), List.count_cons_self]
          exact Nat.lt_succ_of_le hle

/-! ## Rounds -/

/-- Rounds one behind the other; that they stop early makes no difference. -/
theorem rounds_eq_iterate (round : Marks → Marks) (n : Nat) :
    rounds round n = round^[n] := by
  funext m
  induction n generalizing m with
  | zero => rfl
  | succ n ih =>
    rw [rounds, Function.iterate_succ_apply]
    split
    · rename_i hfixed
      rw [hfixed, Function.iterate_fixed hfixed]
    · exact ih (round m)

/-- One round, which keeps the marks it starts from. -/
def grow (round : Marks → Marks) (m : Marks) : Marks := m.union (round m)

theorem upTo_eq_iterate (round : Marks → Marks) (n : Nat) :
    upTo round n = (grow round)^[n] := by
  funext m
  induction n generalizing m with
  | zero => rfl
  | succ n ih =>
    rw [upTo, Function.iterate_succ_apply]
    split
    · rename_i hfixed
      rw [grow, hfixed, Function.iterate_fixed hfixed]
    · exact ih (grow round m)

/-- From marked places, a round marks exactly the places that a language reaches. -/
structure Follows (t : Text) (round : Marks → Marks) (L : Language) : Prop where
  length : ∀ {m : Marks}, m.length = t.length + 1 → (round m).length = t.length + 1
  has : ∀ {m : Marks}, m.length = t.length + 1 →
    ∀ {j}, (round m).Has j ↔ ∃ i, m.Has i ∧ L.Spans t i j

namespace Follows

variable {round next : Marks → Marks} {L M : Language}

theorem empty : Follows t id Language.empty where
  length hm := hm
  has := by
    intro m hm j
    simp only [id_eq, Language.spans_empty_iff]
    constructor
    · intro hj
      have hlt : j < t.length + 1 := hm ▸ (List.getElem?_eq_some_iff.mp hj).1
      exact ⟨j, hj, rfl, Nat.le_of_lt_succ hlt⟩
    · rintro ⟨i, hi, rfl, -⟩
      exact hi

theorem one (test : Char → Bool) : Follows t (advance test t) (.one test) where
  length hm := by simp [advance, hm]
  has := by
    intro m hm j
    simp only [has_advance, Language.spans_one_iff]

theorem anchor (a : Anchor) :
    Follows t (atAnchor a t)
      (.place fun before after => a.holds before.getLast? after.head? = true) where
  length hm := by simp [atAnchor, hm, length_neighbours]
  has := by
    intro m hm j
    simp only [has_atAnchor, Language.spans_place_iff]
    constructor
    · rintro ⟨hj, h⟩
      exact ⟨j, hj, rfl, h⟩
    · rintro ⟨i, hi, rfl, h⟩
      exact ⟨hi, h⟩

theorem followedBy (hL : Follows t round L) (hM : Follows t next M) :
    Follows t (fun m => next (round m)) (L.followedBy M) where
  length hm := hM.length (hL.length hm)
  has := by
    intro m hm j
    simp only [hM.has (hL.length hm), hL.has hm, Language.spans_followedBy_iff]
    constructor
    · rintro ⟨k, ⟨i, hi, hik⟩, hkj⟩
      exact ⟨i, hi, k, hik, hkj⟩
    · rintro ⟨i, hi, k, hik, hkj⟩
      exact ⟨k, ⟨i, hi, hik⟩, hkj⟩

theorem either (hL : Follows t round L) (hM : Follows t next M) :
    Follows t (fun m => (round m).union (next m)) (L.either M) where
  length hm := by simp [union, hL.length hm, hM.length hm]
  has := by
    intro m hm j
    simp only [has_union ((hL.length hm).trans (hM.length hm).symm), hL.has hm, hM.has hm,
      Language.spans_either_iff, and_or_left, exists_or]

theorem iterate (h : Follows t round L) (n : Nat) : Follows t round^[n] (L.power n) := by
  induction n with
  | zero => exact empty
  | succ n ih => exact h.followedBy ih

/-- Growing is the round of a word that may be left out. -/
theorem iterate_grow (h : Follows t round L) (n : Nat) :
    Follows t (grow round)^[n] (L.repeated 0 (some n)) := by
  rw [← Language.power_empty_either]
  exact (empty.either h).iterate n

theorem union_length (h : Follows t round L) {m : Marks} (hm : m.length = t.length + 1) :
    m.length = (round m).length := hm.trans (h.length hm).symm

/-- With a round for every place that has no mark, growing comes to an end. -/
theorem grow_iterate (h : Follows t round L) {m : Marks} (hm : m.length = t.length + 1) {n : Nat}
    (hn : m.count false ≤ n) : grow round ((grow round)^[n] m) = (grow round)^[n] m := by
  induction n generalizing m with
  | zero =>
    by_contra hne
    exact absurd (count_union_lt (h.union_length hm) hne) (by omega)
  | succ n ih =>
    by_cases hfixed : grow round m = m
    · rw [Function.iterate_fixed hfixed, hfixed]
    · have hlt : (grow round m).count false < m.count false :=
        count_union_lt (h.union_length hm) hfixed
      exact ih ((empty.either h).length hm) (by omega)

/-- A repetition without a bound reaches all it can in as many rounds as there are places. -/
theorem iterate_grow_unbounded (h : Follows t round L) :
    Follows t (grow round)^[t.length + 1] (L.repeated 0 none) where
  length hm := (h.iterate_grow _).length hm
  has := by
    intro m hm j
    have hcount : m.count false ≤ t.length + 1 := hm ▸ List.count_le_length
    -- More rounds change nothing, so any number of words is within reach.
    have hmore : ∀ n, (grow round)^[n + (t.length + 1)] m = (grow round)^[t.length + 1] m := by
      intro n
      rw [Function.iterate_add_apply, Function.iterate_fixed (h.grow_iterate hm hcount)]
    constructor
    · intro hj
      obtain ⟨i, hi, hspans⟩ := ((h.iterate_grow _).has hm).mp hj
      exact ⟨i, hi, hspans.mono fun ⟨n, _, _, hn⟩ => ⟨n, Nat.zero_le n, by simp, hn⟩⟩
    · rintro ⟨i, hi, before, word, after, ht, hbefore, hword, n, -, -, hn⟩
      rw [← hmore n]
      refine ((h.iterate_grow _).has hm).mpr ⟨i, hi, before, word, after, ht, hbefore, hword, n,
        Nat.zero_le n, ?_, hn⟩
      simp

end Follows

end Marks

/-! ## Runs -/

/-- **A run marks exactly the places where a match ends.** -/
theorem Regex.run_follows (r : Regex) (t : Text) : Marks.Follows t (r.run t) r.Matches := by
  induction r with
  | empty => exact .empty
  | one test => exact .one test
  | anchor a => exact .anchor a
  | sequence a b iha ihb => exact iha.followedBy ihb
  | alternation a b iha ihb => exact iha.either ihb
  | repetition least most body ih =>
    have hleast : Marks.Follows t (Marks.rounds (body.run t) least) (body.Matches.power least) := by
      rw [Marks.rounds_eq_iterate]
      exact ih.iterate least
    rw [Regex.Matches, Language.repeated_eq]
    cases most with
    | none =>
      have hmore : Marks.Follows t (Marks.upTo (body.run t) (t.length + 1))
          (body.Matches.repeated 0 none) := by
        rw [Marks.upTo_eq_iterate]
        exact ih.iterate_grow_unbounded
      exact hleast.followedBy hmore
    | some most =>
      have hmore : Marks.Follows t (Marks.upTo (body.run t) (most - least))
          (body.Matches.repeated 0 (some (most - least))) := by
        rw [Marks.upTo_eq_iterate]
        exact ih.iterate_grow (most - least)
      exact hleast.followedBy hmore

/-- **A search finds a match exactly if some part of the text matches.** -/
theorem Regex.search_iff (r : Regex) (t : Text) :
    r.search t = true ↔ r.Matches.OccursIn t := by
  have hall : (List.replicate (t.length + 1) true).length = t.length + 1 := List.length_replicate
  rw [Regex.search, Marks.any_iff, Language.occursIn_iff]
  constructor
  · rintro ⟨j, hj⟩
    obtain ⟨i, -, hspans⟩ := ((r.run_follows t).has hall).mp hj
    exact ⟨i, j, hspans⟩
  · rintro ⟨i, j, hspans⟩
    have hi : Marks.Has (List.replicate (t.length + 1) true) i := by
      rw [Marks.Has, List.getElem?_replicate_of_lt (Nat.lt_succ_of_le hspans.le_length)]
    exact ⟨j, ((r.run_follows t).has hall).mpr ⟨i, hi, hspans⟩⟩

end Gazetteer.Pattern
