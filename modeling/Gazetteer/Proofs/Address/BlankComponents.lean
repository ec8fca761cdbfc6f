/-
# Gazetteer.Proofs.Address.BlankComponents -- an address without components has no lines

A line of separators and values shows nothing when no value is set. This is not because nothing is
left of the line: an inverted section stands just then, and a first-block may choose an alternative
of punctuation. What is left comes from the literal texts of the line, though, and from nowhere
else. No character of a tag or of a key outlives the three scans, and tidying puts in spaces only.
A line of characters that all separate has no content, and is dropped.
-/
import Gazetteer.Proofs.Address.ListedFields

namespace Gazetteer.Address

open Template (Resolver shown)

/-! ## Literal texts -/

/-- The atoms that stand in a piece, in whatever alternative. -/
def Piece.leaves : Piece → List Atom
  | .atom a => [a]
  | .first alternatives => alternatives.flatten

/-- The atoms that stand in a part. -/
def Part.leaves : Part → List Atom
  | .piece p => p.leaves
  | .section _ _ body => body.flatMap Piece.leaves

/-- The atoms that stand in a line, shown or not. -/
def Line.leaves (line : Line) : List Atom := line.flatMap Part.leaves

/-- An ASCII character that is no letter and no digit. -/
def IsSeparator (c : Char) : Prop := c.isAlphanum = false ∧ c.toNat < 128

/-- Plain text is made of separators. -/
def Atom.Wordless : Atom → Prop
  | .text t => ∀ c ∈ t, IsSeparator c
  | .value _ _ => True

/-- The literal texts of a line are made of separators. -/
def Line.Wordless (line : Line) : Prop := ∀ a ∈ Line.leaves line, a.Wordless

instance : DecidablePred IsSeparator := fun _ => inferInstanceAs (Decidable (_ ∧ _))

instance : DecidablePred Atom.Wordless
  | .text t => inferInstanceAs (Decidable (∀ c ∈ t, IsSeparator c))
  | .value _ _ => inferInstanceAs (Decidable True)

instance : DecidablePred Line.Wordless := fun line =>
  inferInstanceAs (Decidable (∀ a ∈ Line.leaves line, a.Wordless))

/-! ## Where the characters of a line come from -/

variable {resolve : Resolver}

theorem exists_leaf_of_mem_piece {c : Char} {p : Piece} (h : c ∈ p.meaning resolve) :
    ∃ a ∈ p.leaves, c ∈ a.meaning resolve := by
  cases p with
  | atom a => exact ⟨a, List.mem_singleton_self a, h⟩
  | first alternatives =>
    obtain ⟨atoms, hatoms, a, ha, hc⟩ := exists_atom_of_mem_first h
    exact ⟨a, List.mem_flatten.mpr ⟨atoms, hatoms, ha⟩, hc⟩

theorem exists_leaf_of_mem_part {c : Char} {p : Part} (h : c ∈ p.meaning resolve) :
    ∃ a ∈ p.leaves, c ∈ a.meaning resolve := by
  cases p with
  | piece p => exact exists_leaf_of_mem_piece h
  | «section» key inverted body =>
    rw [Part.meaning] at h
    split at h
    · obtain ⟨p, hp, hc⟩ := List.mem_flatMap.mp h
      obtain ⟨a, ha, hc⟩ := exists_leaf_of_mem_piece hc
      exact ⟨a, List.mem_flatMap.mpr ⟨p, hp, ha⟩, hc⟩
    · exact absurd h (by simp)

/-- Every character that a line means stands in a literal text or in a value. -/
theorem exists_leaf_of_mem_line {c : Char} {line : Line} (h : c ∈ Line.meaning resolve line) :
    ∃ a ∈ Line.leaves line, c ∈ a.meaning resolve := by
  obtain ⟨p, hp, hc⟩ := List.mem_flatMap.mp h
  obtain ⟨a, ha, hc⟩ := exists_leaf_of_mem_part hc
  exact ⟨a, List.mem_flatMap.mpr ⟨p, hp, ha⟩, hc⟩

/-! ## Lines without content -/

theorem hasContent_eq_false_iff {t : Text} :
    Template.hasContent t = false ↔ ∀ c ∈ t, IsSeparator c := by
  simp [Template.hasContent, IsSeparator]

/-- Tidying makes no content. -/
theorem cleanUp_eq_nil {t : Text} (h : ∀ c ∈ t, IsSeparator c) : Template.cleanUp t = [] := by
  have htidy : Template.hasContent (Text.tidy t) = false := by
    rw [hasContent_eq_false_iff]
    intro c hc
    rcases Text.mem_tidy hc with rfl | hmem
    · decide
    · exact h c hmem
  rw [Template.cleanUp, htidy]
  rfl

/-- Where no key has a value, a line of separators and values shows nothing. -/
theorem renderLine_eq_nil {line : Line} (h : Line.WellFormed line) (hwordless : Line.Wordless line)
    (hunset : ∀ k, shown resolve k = []) :
    Template.renderLine resolve (Line.written line) = [] := by
  have hkeys : ∀ k ∈ Line.firstKeys line, '{' ∉ shown resolve k := by
    intro k _
    rw [hunset]
    exact List.not_mem_nil
  rw [Template.renderLine, substitute_written h hkeys]
  apply cleanUp_eq_nil
  intro c hc
  obtain ⟨a, ha, hmem⟩ := exists_leaf_of_mem_line hc
  cases a with
  | text t => exact hwordless _ ha c hmem
  | value triple key =>
    rw [Atom.meaning, hunset] at hmem
    exact absurd hmem List.not_mem_nil

/-! ## Blank components -/

/-- Blank components have no value for any key, be it the key of a field or not. -/
theorem value_of_isBlank {c : Components} (h : c.isBlank = true) (k : Text) : c.value k = [] := by
  cases hfield : Field.ofKey? k with
  | none => exact value_of_ofKey?_eq_none hfield c
  | some f =>
    obtain rfl := Field.ofKey?_eq_some_iff.mp hfield
    exact List.isEmpty_iff.mp (List.all_eq_true.mp h f f.mem_all)

/-- **Blank components render nothing.** A template of well-formed lines whose literal texts are
made of separators, and whatever mixture of absent, empty and white-space values the components
hold: there is a template to render by, and there is nothing to show. -/
theorem renderLines_blank (lines : List Line) (hlines : lines ≠ [])
    (h : ∀ line ∈ lines, Line.WellFormed line) (hwordless : ∀ line ∈ lines, Line.Wordless line)
    (c : Components) (hblank : c.isBlank = true) :
    renderLines c (some (lines.map Line.written)) = some []
      ∧ render c (some (lines.map Line.written)) = some [] := by
  have hunset : ∀ k, shown c.value k = [] := by
    intro k
    rw [shown_value, value_of_isBlank hblank]
  have hempty : ∀ t ∈ (lines.map Line.written).map (Template.renderLine c.value), t = [] := by
    intro t ht
    obtain ⟨text, htext, rfl⟩ := List.mem_map.mp ht
    obtain ⟨line, hline, rfl⟩ := List.mem_map.mp htext
    exact renderLine_eq_nil (h line hline) (hwordless line hline) hunset
  have hrender : renderLines c (some (lines.map Line.written)) = some [] := by
    obtain ⟨line, rest, rfl⟩ := List.exists_cons_of_ne_nil hlines
    refine congrArg some (List.filter_eq_nil_iff.mpr fun t ht => ?_)
    simp [hempty t ht]
  refine ⟨hrender, ?_⟩
  rw [render, hrender]
  rfl

/-- An inverted section that stands, an alternative of punctuation, and values that are unset in
three ways. -/
theorem renderLines_blank_inverted :
    let city : Atom := .value true (Field.key .city)
    let lines : List Line :=
      [[.piece (.first [[city], [.text " - "], [.value false "first"]]), .plain ", "],
        [.section (Field.key .road) true [.atom (.text "#/"), .first [[city, .text ";"]]],
          .section "nothing" false [.atom city]],
        []]
    let c : Components := .ofPairs [(.city, "\t "), (.road, "")]
    lines ≠ []
      ∧ (∀ line ∈ lines, Line.WellFormed line) ∧ (∀ line ∈ lines, Line.Wordless line)
      ∧ c.isBlank = true
      ∧ renderLines c (some (lines.map Line.written)) = some []
      ∧ render c (some (lines.map Line.written)) = some [] := by
  intro city lines c
  have hlines : lines ≠ [] := List.cons_ne_nil _ _
  have h : ∀ line ∈ lines, Line.WellFormed line := by decide
  have hwordless : ∀ line ∈ lines, Line.Wordless line := by decide
  have hblank : c.isBlank = true := by decide
  exact ⟨hlines, h, hwordless, hblank, renderLines_blank lines hlines h hwordless c hblank⟩

end Gazetteer.Address
