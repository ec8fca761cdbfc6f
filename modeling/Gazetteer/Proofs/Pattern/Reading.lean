/-
# Gazetteer.Proofs.Pattern.Reading -- plain patterns are read as they are meant

Each part of a plain pattern is read as the node that it stands for, and the text behind it is left.
For that, what stands behind a part must not continue it: behind repetitions there is nothing that
repeats, behind a sequence a bar, a closing bracket or nothing, and behind a pattern no bar either.

The readers count their steps. Three steps for every character are enough, with one more for a
sequence and two more for a pattern.
-/
import Gazetteer.Proofs.Pattern.ClassReading
import Gazetteer.Proofs.Pattern.Repetitions

namespace Gazetteer.Pattern.Plain

/-! ## Patterns -/

theorem Leaf.front (l : Leaf) :
    ∃ c tail, l.written classText = c :: tail ∧ c ∉ notInFrontOfAtom := by
  match l with
  | .literal l =>
    rw [written]
    rcases sign_cases l with ⟨htext, hchar⟩ | ⟨htext, -⟩
    · exact ⟨_, _, htext, fun hmem => hchar ((show notInFrontOfAtom ⊆ reserved by decide) hmem)⟩
    · exact ⟨_, _, htext, by decide⟩
  | .anyChar => exact ⟨_, _, rfl, by decide⟩
  | .shorthand ⟨.digit, negated⟩ => exact ⟨_, _, (spelledAs_digits negated).text, by decide⟩
  | .shorthand ⟨.word, negated⟩ => exact ⟨_, _, (spelledAs_wordChars negated).text, by decide⟩
  | .shorthand ⟨.blank, negated⟩ =>
    have htext : classText (Shorthand.letter ⟨.blank, negated⟩)
        = ['\\', if negated then 'S' else 's'] := by
      cases negated <;> rfl
    exact ⟨_, _, htext, by decide⟩
  | .set s => exact ⟨_, _, rfl, by decide⟩
  | .caret => exact ⟨_, _, rfl, by decide⟩
  | .dollar => exact ⟨_, _, rfl, by decide⟩

instance : Fronted Leaf := ⟨Leaf.front⟩

theorem Atom.isRepeatable_node (a : Atom) : a.node.isRepeatable = true := by
  match a with
  | .leaf l => cases l <;> rfl
  | .group _ _ => rfl

/-- A character that is not reserved is read as itself. -/
theorem atom?_literal {c : Char} (hc : c ∉ reserved) (b : Nat) (rest : Text) :
    atom? (b + 1) (c :: rest) = some (.literal c, rest) := by
  simp only [reserved, List.mem_cons, List.not_mem_nil, or_false, not_or] at hc
  rw [atom?]
  all_goals simp [hc]

theorem literal_atom? (l : Sign outside) (b : Nat) (rest : Text) :
    atom? (b + 1) (l.text ++ rest) = some (.literal l.char, rest) := by
  rcases sign_cases l with ⟨htext, hchar⟩ | ⟨htext, hchar, hlt, hgt⟩
  · rw [htext]
    exact atom?_literal hchar b rest
  · rw [htext, List.cons_append, List.singleton_append, atom?,
      escape?_punctuation hchar hlt hgt]
    rfl

theorem Class.atom? (s : Class) {b : Nat} (hb : (s.written classText).length ≤ b) (rest : Text) :
    Pattern.atom? (b + 1) (s.written classText ++ rest) = some (.set s.set, rest) := by
  obtain ⟨t, htext, hbracket⟩ := s.bracket? (fun i _ => i.isRead) hb rest
  rw [htext, Pattern.atom?, hbracket]
  rfl

theorem Shorthand.SpelledAs.atom? {s : Shorthand} {spelled : Class} (h : s.SpelledAs spelled)
    {b : Nat} (hb : (classText s.letter).length ≤ b) (rest : Text) :
    Pattern.atom? (b + 1) (classText s.letter ++ rest) = some (.set s.set, rest) := by
  rw [h.text] at hb ⊢
  rw [spelled.atom? hb, h.set]

theorem Shorthand.atom? (s : Shorthand) {b : Nat} (hb : (classText s.letter).length ≤ b)
    (rest : Text) :
    Pattern.atom? (b + 1) (classText s.letter ++ rest) = some (.set s.set, rest) := by
  match s with
  | ⟨.digit, negated⟩ => exact (spelledAs_digits negated).atom? hb rest
  | ⟨.word, negated⟩ => exact (spelledAs_wordChars negated).atom? hb rest
  | ⟨.blank, negated⟩ => cases negated <;> rfl

/-- An item that is no group is read whatever stands behind it. -/
theorem Leaf.atom? (l : Leaf) {b : Nat} (hb : (l.written classText).length ≤ b) (rest : Text) :
    Pattern.atom? (b + 1) (l.written classText ++ rest) = some (l.node, rest) := by
  match l with
  | .literal l => exact literal_atom? l b rest
  | .anyChar => rfl
  | .shorthand s => exact s.atom? hb rest
  | .set s => exact s.atom? hb rest
  | .caret => rfl
  | .dollar => rfl

theorem atom?_group (opening : Opening Empty) {t rest : Text} {body : Node} {b : Nat}
    (ht : RepeatsNothing t) (hbody : alternation? b t = some (body, ')' :: rest)) :
    atom? (b + 1) ('(' :: (opening.written classText ++ t))
      = some (.group none {} body, rest) := by
  have hfront : groupFront? (opening.written classText ++ t) = some (.body none {} t) := by
    match opening with
    | .numbered => exact ht.groupFront?
    | .unnumbered => rfl
  rw [atom?, hfront]
  dsimp only
  rw [hbody]
  rfl

/-- One more item of a sequence, given that the item and what follows it are read. -/
theorem sequence?_cons {a : Atom} {qs : Quantifiers} {t rest : Text} {others : Node} {b : Nat}
    (ha : atom? b (a.written classText ++ (qs.text ++ t)) = some (a.node, qs.text ++ t))
    (ht : RepeatsNothing t) (hothers : sequence? b t = some (others, rest)) :
    sequence? (b + 1) (a.written classText ++ (qs.text ++ t))
      = some ((qs.list.foldl Quantifier.node a.node).before others, rest) := by
  have hlength : qs.list.length < (qs.text ++ t).length + 1 := by
    have hle := qs.length_list_le
    rw [List.length_append]
    omega
  have hgoes : ((a.written classText ++ (qs.text ++ t)).isEmpty
      || (a.written classText ++ (qs.text ++ t)).head? == some '|'
      || (a.written classText ++ (qs.text ++ t)).head? == some ')') = false := by
    obtain ⟨c, tail, htext, hc⟩ := a.front
    simp only [notInFrontOfAtom, List.mem_append, List.mem_cons, List.not_mem_nil, or_false,
      not_or] at hc
    simp [htext, hc]
  have hrepeated := repeated?_quantifiers qs.valid a.isRepeatable_node ht hlength
  rw [← Quantifiers.text] at hrepeated
  rw [sequence?, hgoes, ha]
  dsimp only
  rw [hrepeated]
  dsimp only
  rw [hothers]
  rfl

-- The induction is on the parts of a pattern. A part is read with the bound of the whole less one,
-- and the character that the whole has more than the part pays for its own one or two extra steps.
mutual

/-- An item is read whatever stands behind it. -/
theorem Atom.atom? : ∀ (a : Atom) {b : Nat} {rest : Text},
    3 * (a.written classText).length ≤ b + 1 →
    Pattern.atom? (b + 1) (a.written classText ++ rest) = some (a.node, rest)
  | .leaf l, b, rest, hb => by
    obtain ⟨c, tail, htext, -⟩ := l.front
    have hlength : 3 * (l.written classText).length ≤ b + 1 := hb
    have hpos : 0 < (l.written classText).length := by
      rw [htext]
      exact Nat.succ_pos _
    exact l.atom? (by omega) rest
  | .group opening body, b, rest, hb => by
    have htext : (Atom.group opening body).written classText ++ rest
        = '(' :: (opening.written classText ++ (body.written classText ++ ')' :: rest)) := by
      simp [Atom.written]
    have hlength : (body.written classText).length + 2
        ≤ ((Atom.group opening body).written classText).length := by
      simp [Atom.written]
    rw [htext]
    exact atom?_group opening (body.repeatsNothing (repeatsNothing_end (by simp)))
      (Alternation.alternation? body (by omega) (by simp))

/-- Items one behind the other are read up to a bar, a closing bracket or the end. -/
theorem Sequence.sequence? : ∀ (s : Sequence) {b : Nat} {rest : Text},
    3 * (s.written classText).length ≤ b → (∀ c ∈ rest.head?, c = '|' ∨ c = ')') →
    Pattern.sequence? (b + 1) (s.written classText ++ rest) = some (s.node, rest)
  | .nil, b, rest, _, hrest => sequence?_nil hrest b
  | .cons first quantifiers others, b, rest, hb, hrest => by
    have hpos := first.length_written_pos
    rw [Sequence.written, List.length_append, List.length_append] at hb
    obtain ⟨b, rfl⟩ := Nat.exists_eq_add_one_of_ne_zero (n := b) (by omega)
    rw [Sequence.written, List.append_assoc, List.append_assoc]
    exact sequence?_cons (Atom.atom? first (by omega))
      (others.repeatsNothing (repeatsNothing_end hrest))
      (Sequence.sequence? others (by omega) hrest)

/-- Sequences with bars between them are read up to a closing bracket or the end. -/
theorem Alternation.alternation? : ∀ (p : Alternation) {b : Nat} {rest : Text},
    3 * (p.written classText).length + 2 ≤ b → (∀ c ∈ rest.head?, c = ')') →
    Pattern.alternation? b (p.written classText ++ rest) = some (p.node, rest)
  | .one s, b, rest, hb, hrest => by
    obtain ⟨b, rfl⟩ := Nat.exists_eq_add_one_of_ne_zero (n := b) (by omega)
    obtain ⟨b, rfl⟩ := Nat.exists_eq_add_one_of_ne_zero (n := b) (by omega)
    rw [Alternation.written] at hb ⊢
    rw [Pattern.alternation?, Sequence.sequence? s (by omega) fun c hc => .inr (hrest c hc)]
    cases rest with
    | nil => rfl
    | cons c rest =>
      obtain rfl := hrest c rfl
      rfl
  | .cons first others, b, rest, hb, hrest => by
    obtain ⟨b, rfl⟩ := Nat.exists_eq_add_one_of_ne_zero (n := b) (by omega)
    obtain ⟨b, rfl⟩ := Nat.exists_eq_add_one_of_ne_zero (n := b) (by omega)
    rw [Alternation.written, List.length_append, List.length_cons] at hb
    rw [Alternation.written, List.append_assoc, List.cons_append, Pattern.alternation?,
      Sequence.sequence? first (by omega) (by simp)]
    have hothers := Alternation.alternation? others (b := b + 1) (by omega) hrest
    exact congrArg
      (Option.map fun (n, rest) => (Node.alternation (Sequence.node first) n, rest)) hothers

end

/-! ## Stored patterns -/

theorem Quantifiers.names_foldl (qs : List Quantifier) (n : Node) :
    (qs.foldl Quantifier.node n).names = n.names := by
  induction qs generalizing n with
  | nil => rfl
  | cons q qs ih => exact ih _

theorem names_before (a b : Node) : (a.before b).names = a.names ++ b.names := by
  rw [Node.before]
  split
  · rename_i hempty
    rw [hempty]
    exact (List.append_nil _).symm
  · rfl

mutual

/-- No group of a plain pattern has a name. -/
theorem Atom.names_node : ∀ a : Atom, a.node.names = []
  | .leaf l => by cases l <;> rfl
  | .group _ body => Alternation.names_node body

theorem Sequence.names_node : ∀ s : Sequence, s.node.names = []
  | .nil => rfl
  | .cons first quantifiers others => by
    rw [Sequence.node, names_before, Quantifiers.names_foldl, Atom.names_node first,
      Sequence.names_node others]
    rfl

theorem Alternation.names_node : ∀ p : Alternation, p.node.names = []
  | .one s => Sequence.names_node s
  | .cons first others => by
    rw [Alternation.node, Node.names, Sequence.names_node first, Alternation.names_node others]
    rfl

end

/-- **A plain pattern is read as its node,** unless it is nested too deep. -/
theorem Alternation.ofText? (p : Alternation) :
    Node.ofText? (p.written classText)
      = if p.node.depth ≤ depthLimit then some p.node else none := by
  have hread : Pattern.alternation? (3 * (p.written classText).length + 3)
      (p.written classText ++ []) = some (p.node, []) :=
    p.alternation? (by omega) (by simp)
  rw [List.append_nil] at hread
  rw [Node.ofText?, hread]
  dsimp only
  rw [p.names_node]
  simp

end Gazetteer.Pattern.Plain
