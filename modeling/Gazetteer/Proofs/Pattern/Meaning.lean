/-
# Gazetteer.Proofs.Pattern.Meaning -- stored plain patterns accept what they say

A plain pattern has its language by its parts (`Alternation.Matches`), and it has another one by the
way that a stored pattern goes: written out, read, given a meaning and searched for. They are the
same, so a stored plain pattern accepts an input exactly if the trimmed input is not empty and some
part of it is in the language. Only patterns beyond the limits on nesting and size accept nothing.
What is within the limit on the size is not said here: every limit will do.
-/
import Gazetteer.Country.Basic
import Gazetteer.Proofs.Pattern.Marks
import Gazetteer.Proofs.Pattern.Reading

namespace Gazetteer.Pattern.Plain

/-! ## Classes -/

/-- A range of characters, by code points. -/
theorem holds_range {lo hi c : Char} :
    CharSet.holds false (.range lo hi) c = true ↔ lo.toNat ≤ c.toNat ∧ c.toNat ≤ hi.toNat := by
  simp [CharSet.holds, Char.le_def, UInt32.le_iff_toNat_le]

theorem holds_single (d c : Char) : CharSet.holds false (.single d) c = (c == d) := by
  rw [Bool.eq_iff_iff, CharSet.single, holds_range, beq_iff_eq, ← Char.toNat_inj]
  omega

/-- A bracketed set, where letter case matters. -/
theorem holds_bracket (negated : Bool) (s : CharSet) (c : Char) :
    CharSet.holds false (.bracket negated s) c = (s.holds false c != negated) := by
  simp [CharSet.holds, CharSet.variants]

theorem holds_union (a b : CharSet) (c : Char) :
    CharSet.holds false (.union a b) c = (a.holds false c || b.holds false c) := rfl

theorem holds_nothing (c : Char) : CharSet.holds false .nothing c = false := rfl

theorem holds_digits (c : Char) : CharSet.holds false (.range '0' '9') c = c.isDigit := by
  rw [Bool.eq_iff_iff, holds_range, Text.isDigit_iff]
  rfl

theorem holds_upper (c : Char) : CharSet.holds false (.range 'A' 'Z') c = c.isUpper := by
  rw [Bool.eq_iff_iff, holds_range, Text.isUpper_iff]
  rfl

theorem holds_lower (c : Char) : CharSet.holds false (.range 'a' 'z') c = c.isLower := by
  rw [Bool.eq_iff_iff, holds_range, Text.isLower_iff]
  rfl

theorem Shorthand.holds_set (s : Shorthand) : s.set.holds false = s.holds := by
  funext c
  match s with
  | ⟨.digit, negated⟩ =>
    rw [set, holds_bracket, holds_union, holds_nothing, holds_digits]
    rfl
  | ⟨.word, negated⟩ =>
    have hword : (c.isAlphanum || c == '_')
        = ((((false || c.isDigit) || c.isUpper) || c.isLower) || c == '_') := by
      show (((c.isUpper || c.isLower) || c.isDigit) || c == '_') = _
      rw [Bool.false_or, Bool.or_assoc c.isDigit, Bool.or_comm c.isDigit]
    rw [set, holds_bracket, holds_union, holds_union, holds_union, holds_union, holds_nothing,
      holds_digits, holds_upper, holds_lower, holds_single, ← hword]
    rfl
  | ⟨.blank, negated⟩ => rfl

theorem Item.holds_set (i : Item) : i.set.holds false = i.holds := by
  funext c
  match i with
  | .literal l => exact holds_single l.char c
  | .range r => rfl
  | .shorthand s => exact congrFun s.holds_set c

theorem holds_itemsSet (current : CharSet) (items : List Item) (c : Char) :
    (itemsSet current items).holds false c = (current.holds false c || items.any (·.holds c)) := by
  induction items generalizing current with
  | nil => exact (Bool.or_false _).symm
  | cons i items ih =>
    rw [itemsSet, List.foldl_cons, ← itemsSet, ih, CharSet.holds, i.holds_set, List.any_cons,
      Bool.or_assoc]

theorem Class.holds_set (s : Class) : s.set.holds false = s.holds := by
  funext c
  rw [set, holds_bracket, holds_itemsSet]
  rfl

/-! ## Nodes -/

/-- Without flags a node means a language, and it leaves the flags as they are. -/
def Means (n : Node) (L : Language) : Prop :=
  ∃ r, n.meaning {} = (r, {}) ∧ r.Matches = L

namespace Means

variable {n m : Node} {L M : Language}

theorem empty : Means .empty .empty := ⟨_, rfl, rfl⟩

theorem one_of_set (s : CharSet) : Means (.set s) (.one (s.holds false)) := ⟨_, rfl, rfl⟩

theorem group {name : Option Text} (h : Means n L) : Means (.group name {} n) L := by
  obtain ⟨r, hr, hL⟩ := h
  exact ⟨r, congrArg (·.1, ({} : Flags)) hr, hL⟩

theorem repetition (h : Means n L) (c : Count) :
    Means (.repetition c.least c.most n) (L.repeated c.least c.most) := by
  obtain ⟨r, hr, rfl⟩ := h
  have hmost : c.most.map (max c.least) = c.most := by
    match c with
    | .optional | .anyNumber | .atLeastOnce | .exactly _ | .atLeast _ =>
      simp [Count.most, Count.least]
    | .between least most ordered => exact congrArg some (Nat.max_eq_right ordered)
  refine ⟨.repetition c.least c.most r, ?_, ?_⟩
  · rw [Node.meaning, hr]
  · rw [Regex.Matches, hmost]

theorem quantified (h : Means n L) (qs : List Quantifier) :
    Means (qs.foldl Quantifier.node n) (qs.foldl Quantifier.apply L) := by
  induction qs generalizing n L with
  | nil => exact h
  | cons q qs ih => exact ih (h.repetition q.count)

theorem before (hn : Means n L) (hm : Means m M) : Means (n.before m) (L.followedBy M) := by
  obtain ⟨r, hr, rfl⟩ := hn
  obtain ⟨r', hr', rfl⟩ := hm
  rw [Node.before]
  split
  · rename_i hempty
    have hblank : r' = .empty := by
      rw [hempty] at hr'
      exact (congrArg Prod.fst hr').symm
    rw [hblank]
    exact ⟨r, hr, (Language.followedBy_empty r.Matches).symm⟩
  · refine ⟨.sequence r r', ?_, rfl⟩
    rw [Node.meaning, hr]
    dsimp only
    rw [hr']

theorem alternation (hn : Means n L) (hm : Means m M) :
    Means (.alternation n m) (L.either M) := by
  obtain ⟨r, hr, rfl⟩ := hn
  obtain ⟨r', hr', rfl⟩ := hm
  refine ⟨.alternation r r', ?_, rfl⟩
  rw [Node.meaning, hr]
  dsimp only
  rw [hr']

end Means

/-! ## Patterns -/

/-- An item that is no group means its language. -/
theorem Leaf.means (l : Leaf) : Means l.node l.Matches := by
  cases l with
  | literal _ => exact ⟨_, rfl, rfl⟩
  | anyChar => exact ⟨_, rfl, rfl⟩
  | shorthand s =>
    rw [Matches, ← s.holds_set]
    exact .one_of_set s.set
  | set s =>
    rw [Matches, ← s.holds_set]
    exact .one_of_set s.set
  | caret =>
    refine ⟨.anchor .textStart, rfl, ?_⟩
    ext before word after
    simp [Regex.Matches, Matches, Language.place, Anchor.holds]
  | dollar =>
    refine ⟨.anchor .textEnd, rfl, ?_⟩
    ext before word after
    simp [Regex.Matches, Matches, Language.place, Anchor.holds]

mutual

/-- An item means its language. -/
theorem Atom.means : ∀ a : Atom, Means a.node a.Matches
  | .leaf l => l.means
  | .group _ body => (Alternation.means body).group

/-- Items one behind the other mean their language. -/
theorem Sequence.means : ∀ s : Sequence, Means s.node s.Matches
  | .nil => .empty
  | .cons first quantifiers others =>
    ((Atom.means first).quantified quantifiers.list).before (Sequence.means others)

/-- A pattern means its language. -/
theorem Alternation.means : ∀ p : Alternation, Means p.node p.Matches
  | .one s => Sequence.means s
  | .cons first others => (Sequence.means first).alternation (Alternation.means others)

end

/-! ## Stored patterns -/

theorem isBlank_escape (t : Text) : Text.isBlank (escape t) = Text.isBlank t := by
  rw [Text.isBlank, escape, List.all_flatMap]
  refine congrArg t.all (funext fun c => ?_)
  split
  · rename_i hc
    rw [hc]
    rfl
  · exact Bool.and_true _

/-- The pattern is nested no deeper than allowed, and what is compiled of it is no larger. -/
def Alternation.IsWithinLimits [SizeLimit] (p : Alternation) : Prop :=
  p.node.depth ≤ depthLimit ∧ SizeLimit.fits (p.written classText) = true

/-- A stored plain pattern within the limits is compiled to its language. -/
theorem Alternation.compile?_eq_some [SizeLimit] {p : Alternation} (hp : p.IsWithinLimits) :
    ∃ r, compile? (escape p.text) = some r ∧ r.Matches = p.Matches := by
  obtain ⟨r, hr, hmatches⟩ := p.means
  refine ⟨r, compile?_eq_some_iff.mpr ?_, hmatches⟩
  rw [p.source_escape, p.ofText?, if_pos hp.1]
  exact ⟨hp.2, _, rfl, congrArg Prod.fst hr⟩

/-- A stored plain pattern beyond the limits is compiled to nothing. -/
theorem Alternation.compile?_eq_none [SizeLimit] {p : Alternation} (hp : ¬ p.IsWithinLimits) :
    compile? (escape p.text) = none := by
  rw [Option.eq_none_iff_forall_ne_some]
  intro r hr
  obtain ⟨hfits, n, hn, -⟩ := compile?_eq_some_iff.mp hr
  rw [p.source_escape] at hfits hn
  rw [p.ofText?, Option.ite_none_right_eq_some] at hn
  exact hp ⟨hn.1, hfits⟩

/-- **A stored plain pattern accepts an input exactly if some part of the trimmed input matches,**
unless the input is blank or the pattern is beyond the limits. -/
theorem Alternation.accepts_iff [SizeLimit] (p : Alternation) (hp : Text.isBlank p.text = false)
    (input : Text) :
    accepts (some (escape p.text)) input = true
      ↔ p.IsWithinLimits ∧ Text.trim input ≠ [] ∧ p.Matches.OccursIn (Text.trim input) := by
  have hstored : Text.nonBlank? (some (escape p.text)) = some (escape p.text) :=
    Option.filter_some_pos (by rw [isBlank_escape, hp]; rfl)
  rw [accepts, hstored]
  dsimp only
  rw [Bool.and_eq_true, Bool.not_eq_true', List.isEmpty_eq_false_iff]
  by_cases hlimits : p.IsWithinLimits
  · obtain ⟨r, hcompiled, hmatches⟩ := Alternation.compile?_eq_some hlimits
    rw [hcompiled, Option.any_some, Regex.search_iff, hmatches]
    exact (and_iff_right hlimits).symm
  · rw [Alternation.compile?_eq_none hlimits]
    simp [hlimits]

/-- **Patterns mean what the data file says.** For every plain pattern that is not blank, and every
input, a phone number or postal code is accepted exactly if the pattern is neither nested too deep
nor too large, the trimmed input is not empty and some part of it matches. -/
theorem Alternation.validate_iff [SizeLimit] (p : Alternation) (hp : Text.isBlank p.text = false)
    (input : Text) :
    (Phone.validate input (some (escape p.text)) = true
        ↔ p.node.depth ≤ depthLimit ∧ SizeLimit.fits (p.written classText) = true
          ∧ Text.trim input ≠ [] ∧ p.Matches.OccursIn (Text.trim input))
      ∧ ∀ c : Country, c.postalCodeRegexp = some (escape p.text) →
        (c.validatePostalCode input = true
          ↔ p.node.depth ≤ depthLimit ∧ SizeLimit.fits (p.written classText) = true
            ∧ Text.trim input ≠ [] ∧ p.Matches.OccursIn (Text.trim input)) := by
  have haccepts : accepts (some (escape p.text)) input = true
      ↔ p.node.depth ≤ depthLimit ∧ SizeLimit.fits (p.written classText) = true
        ∧ Text.trim input ≠ [] ∧ p.Matches.OccursIn (Text.trim input) := by
    rw [p.accepts_iff hp, Alternation.IsWithinLimits, and_assoc]
  refine ⟨haccepts, fun c hc => ?_⟩
  rw [Country.validatePostalCode, hc]
  exact haccepts

/-- A pattern of a repetition of what may be empty, and what it accepts. -/
theorem Alternation.validate_iff_repeatedParts :
    let digits : Quantifiers := { list := [{ count := .anyNumber, isLazy := true }] }
    let part : Sequence :=
      .cons (.leaf (.shorthand { kind := .digit })) digits
        (.cons (.leaf (.literal { char := '-', escaped := true }))
          { list := [{ count := .optional }] } .nil)
    let pattern : Alternation :=
      .one (.cons (.leaf .caret) {} (.cons (.group .numbered (.one part))
        { list := [{ count := .atLeast { digits := "2" } }] } (.cons (.leaf .dollar) {} .nil)))
    let country : Country := { postalCodeRegexp := some (escape pattern.text) }
    pattern.text = "^(\\d*?\\-?)\x7B2,\x7D$"
      ∧ pattern.Matches.OccursIn "12--345"
      ∧ ¬ pattern.Matches.OccursIn "12 345"
      ∧ country.validatePostalCode "\t12--345 " = true := by
  intro digits part pattern country
  have htext : Text.isBlank pattern.text = false := by decide
  have hdepth : pattern.node.depth ≤ depthLimit := by decide
  have hfits : SizeLimit.fits (pattern.written classText) = true := by decide +kernel
  have haccepted := (pattern.validate_iff htext "12--345").1.mp (by decide +kernel)
  have hoccurs : pattern.Matches.OccursIn "12--345" := haccepted.2.2.2
  have hrejected : ¬ pattern.Matches.OccursIn "12 345" := by
    intro hoccurs
    have haccepts := (pattern.validate_iff htext "12 345").1.mpr ⟨hdepth, hfits, by decide, hoccurs⟩
    exact absurd haccepts (by decide +kernel)
  refine ⟨rfl, hoccurs, hrejected, ?_⟩
  exact ((pattern.validate_iff htext "\t12--345 ").2 country rfl).mpr
    ⟨hdepth, hfits, by decide, hoccurs⟩

/-! ## Beyond the limits -/

/-- A letter in a number of groups, one in the other. -/
def nested : Nat → Alternation
  | 0 => .one (.cons (.leaf (.literal { char := 'a' })) {} .nil)
  | n + 1 => .one (.cons (.group .numbered (nested n)) {} .nil)

theorem depth_nested (n : Nat) : (nested n).node.depth = n := by
  induction n with
  | zero => rfl
  | succ n ih =>
    have hnode : (nested (n + 1)).node = .group none {} (nested n).node := rfl
    rw [hnode, Node.depth, ih, Nat.add_comm]

theorem matches_nested (n : Nat) : (nested n).Matches = .one (· == 'a') := by
  induction n with
  | zero => exact Language.followedBy_empty _
  | succ n ih =>
    rw [← ih]
    exact Language.followedBy_empty _

theorem isBlank_nested (n : Nat) : Text.isBlank (nested n).text = false := by
  cases n <;> rfl

/-- A letter any number of times up to the greatest that can be written. -/
def lavish : Alternation :=
  .one (.cons (.leaf (.literal { char := 'a' }))
    { list := [{ count := .between { digits := "0" } { digits := "4294967295" } (by decide) }] }
    .nil)

/-- A pattern beyond a limit accepts nothing, whatever it matches: neither one that is nested too
deep nor one that is too large. -/
theorem limits_reject :
    let deep := nested 251
    Text.trim "a" ≠ []
      ∧ (Text.isBlank deep.text = false
        ∧ deep.Matches.OccursIn (Text.trim "a")
        ∧ Phone.validate "a" (some (escape deep.text)) = false)
      ∧ lavish.text = "a\x7B0,4294967295\x7D"
        ∧ Text.isBlank lavish.text = false
        ∧ lavish.Matches.OccursIn (Text.trim "a")
        ∧ Phone.validate "a" (some (escape lavish.text)) = false := by
  intro deep
  refine ⟨by decide, ⟨isBlank_nested 251, ?_, ?_⟩, rfl, by decide, ?_, by decide +kernel⟩
  · rw [matches_nested]
    exact ⟨[], ['a'], [], rfl, 'a', rfl, rfl⟩
  · rw [Phone.validate, Bool.eq_false_iff, ne_eq, deep.accepts_iff (isBlank_nested 251),
      Alternation.IsWithinLimits, depth_nested]
    exact fun h => absurd h.1.1 (by decide)
  · refine ⟨[], ['a'], [], rfl, ['a'], [], rfl, ⟨1, by decide, by decide, ?_⟩, rfl, trivial⟩
    exact ⟨['a'], [], rfl, ⟨'a', rfl, rfl⟩, rfl, trivial⟩

end Gazetteer.Pattern.Plain
