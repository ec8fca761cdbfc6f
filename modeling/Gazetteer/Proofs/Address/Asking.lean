/-
# Gazetteer.Proofs.Address.Asking -- which keys the rendering of a line asks for

Rendering a line reads its resolver only at the keys it asks for: two resolvers that show the same
at the keys asked of one of them render the line alike and are asked the same. This holds of every
text.

Of a well-formed line the keys are known before any scan: those of each first-block up to the
alternative that is taken, then the section keys, then the keys that the first two scans leave. So
they depend on which values are blank and on nothing else in the values, as long as a value shown in
a first-block holds no opening brace. One that does is scanned again, as a part of the line.
-/
import Gazetteer.Proofs.Address.Meaning
import Gazetteer.Proofs.Address.Trimming

namespace Gazetteer.Address

open Template (IsKey Resolver shown tag StartsSigned firstOpen firstClose)
open Text (Passes)

/-! ## Rendering reads what it asks for -/

namespace Template

variable {r₁ r₂ : Resolver}

theorem substitute_congr {t : Text} (h : ∀ k ∈ substitutionKeys t, shown r₁ k = shown r₂ k) :
    substitute r₁ t = substitute r₂ t :=
  Text.replaceWith_congr h

theorem renderAlternative_congr {t : Text}
    (h : ∀ k ∈ substitutionKeys t, shown r₁ k = shown r₂ k) :
    renderAlternative r₁ t = renderAlternative r₂ t := by
  rw [renderAlternative, renderAlternative, substitute_congr h]

/-- Alternatives are looked at until one is taken, and only those count. -/
theorem chooseFirst_congr {alternatives : List Text}
    (h : ∀ k ∈ chosenKeys r₁ alternatives, shown r₁ k = shown r₂ k) :
    chooseFirst r₁ alternatives = chooseFirst r₂ alternatives
      ∧ chosenKeys r₁ alternatives = chosenKeys r₂ alternatives := by
  induction alternatives with
  | nil => exact ⟨rfl, rfl⟩
  | cons t rest ih =>
    rw [chosenKeys] at h
    have hfirst : renderAlternative r₁ t = renderAlternative r₂ t :=
      renderAlternative_congr fun k hk => h k (List.mem_append_left _ hk)
    simp only [chooseFirst, chosenKeys, hfirst]
    by_cases hempty : (renderAlternative r₂ t).isEmpty
    · obtain ⟨hchoose, hkeys⟩ := ih fun k hk => h k (by simp [hfirst, hempty, hk])
      simp [hempty, hchoose, hkeys]
    · simp [hempty]

theorem resolveFirstBlocks_congr {t : Text}
    (h : ∀ k ∈ firstBlockKeys r₁ t, shown r₁ k = shown r₂ k) :
    resolveFirstBlocks r₁ t = resolveFirstBlocks r₂ t
      ∧ firstBlockKeys r₁ t = firstBlockKeys r₂ t := by
  have hblock : ∀ alternatives ∈ Text.occurrences firstBlock? t,
      chooseFirst r₁ alternatives = chooseFirst r₂ alternatives
        ∧ chosenKeys r₁ alternatives = chosenKeys r₂ alternatives := by
    intro alternatives hmem
    exact chooseFirst_congr fun k hk => h k (List.mem_flatMap.mpr ⟨alternatives, hmem, hk⟩)
  constructor
  · exact Text.replaceWith_congr fun alternatives hmem => (hblock alternatives hmem).1
  · rw [firstBlockKeys, firstBlockKeys, List.flatMap_def, List.flatMap_def]
    exact congrArg List.flatten
      (List.map_congr_left fun alternatives hmem => (hblock alternatives hmem).2)

theorem resolveSections_congr {t : Text} (h : ∀ k ∈ sectionKeys t, shown r₁ k = shown r₂ k) :
    resolveSections r₁ t = resolveSections r₂ t := by
  apply Text.replaceWith_congr
  intro s hs
  rw [Section.expand, Section.expand, h s.key (List.mem_map.mpr ⟨s, hs, rfl⟩)]

/-- What a line renders to, and what it asks for, depends on the keys it asks for alone. -/
theorem renderLine_congr {line : Text} (h : ∀ k ∈ askedKeys r₁ line, shown r₁ k = shown r₂ k) :
    renderLine r₁ line = renderLine r₂ line ∧ askedKeys r₁ line = askedKeys r₂ line := by
  unfold askedKeys at h
  have hfirstKeysAgree : ∀ k ∈ firstBlockKeys r₁ line, shown r₁ k = shown r₂ k := by
    intro k hk
    exact h k (by simp [hk])
  obtain ⟨hfirst, hfirstKeys⟩ := resolveFirstBlocks_congr hfirstKeysAgree
  have hsections : resolveSections r₁ (resolveFirstBlocks r₁ line)
      = resolveSections r₂ (resolveFirstBlocks r₁ line) :=
    resolveSections_congr fun k hk => h k (by simp [hk])
  have hblocks : resolveBlocks r₁ line = resolveBlocks r₂ line := by
    rw [resolveBlocks, hsections, hfirst, resolveBlocks]
  have hline : substitute r₁ (resolveBlocks r₁ line) = substitute r₂ (resolveBlocks r₁ line) :=
    substitute_congr fun k hk => h k (by simp [hk])
  constructor
  · rw [renderLine, hline, hblocks, renderLine]
  · rw [askedKeys, hfirstKeys, hfirst, hblocks, askedKeys]

end Template

/-! ## The keys of a well-formed line -/

variable (resolve : Resolver)

/-- The keys of the alternatives up to the one that is taken. -/
def chosenKeys : List (List Atom) → List Text
  | [] => []
  | atoms :: rest =>
    atoms.filterMap Atom.key?
      ++ (if (alternativeMeaning resolve atoms).isEmpty then chosenKeys rest else [])

/-- The keys that the first scan asks for at a piece. -/
def Piece.askedFirst : Piece → List Text
  | .atom _ => []
  | .first alternatives => chosenKeys resolve alternatives

/-- The keys that the first scan asks for in a part. -/
def Part.askedFirst : Part → List Text
  | .piece p => p.askedFirst resolve
  | .section _ _ body => body.flatMap (Piece.askedFirst resolve)

/-- The key that the second scan asks for at a part. -/
def Part.sectionKeys : Part → List Text
  | .piece _ => []
  | .section key _ _ => [key]

/-- The keys that the third scan asks for in what is left of a part. -/
def Part.askedLast (p : Part) : List Text := (p.atoms resolve).filterMap Atom.key?

/-- The keys that a line asks for, in order. -/
def Line.asked (line : Line) : List Text :=
  line.flatMap (Part.askedFirst resolve) ++ line.flatMap Part.sectionKeys
    ++ line.flatMap (Part.askedLast resolve)

variable {resolve}

/-! ## Substitutions in the text of atoms -/

theorem substitutionKeys_atom {a : Atom} (h : a.Settled) (t : Text) :
    Template.substitutionKeys (a.written ++ t) = a.key?.toList ++ Template.substitutionKeys t := by
  cases a with
  | text s => exact (Template.startsBraced_substitution.passes h).occurrences_append t
  | value triple key =>
    cases triple with
    | false =>
      have hne : tag key ≠ [] := by simp [tag, Template.opening]
      exact Text.occurrences_found hne (Template.substitution?_double h t)
    | true =>
      have hne : '{' :: tag key ++ ['}'] ≠ [] := by simp
      exact Text.occurrences_found hne (Template.substitution?_triple h t)

theorem substitutionKeys_atoms {atoms : List Atom} (h : ∀ a ∈ atoms, a.Settled) :
    Template.substitutionKeys (atoms.flatMap Atom.written) = atoms.filterMap Atom.key? := by
  rw [List.filterMap_eq_flatMap_toList]
  exact Text.flatMap_whole rfl fun a ha t => substitutionKeys_atom (h a ha) t

/-! ## What the three scans ask for -/

/-- The keys of the trimmed texts of some alternatives are those of their atoms. -/
theorem chosenKeys_trim {alternatives : List (List Atom)}
    (h : ∀ atoms ∈ alternatives, ∀ a ∈ atoms, a.Settled) :
    Template.chosenKeys resolve
        (alternatives.map fun atoms => Text.trim (atoms.flatMap Atom.written))
      = chosenKeys resolve alternatives := by
  induction alternatives with
  | nil => rfl
  | cons atoms rest ih =>
    have hatoms : ∀ a ∈ atoms, a.Settled := h atoms (by simp)
    have hrest := ih fun atoms hatoms => h atoms (List.mem_cons_of_mem _ hatoms)
    rw [List.map_cons, Template.chosenKeys, chosenKeys, Template.substitutionKeys_trim,
      substitutionKeys_atoms hatoms, Template.renderAlternative_trim, substitute_atoms hatoms,
      hrest, alternativeMeaning]

theorem chosenKeys_written {alternatives : List (List Atom)}
    (h : ∀ atoms ∈ alternatives, ∀ a ∈ atoms, a.WellFormed ∧ a.BarFree) :
    Template.chosenKeys resolve (Template.alternatives (firstBody alternatives))
      = chosenKeys resolve alternatives := by
  by_cases hne : alternatives = []
  · subst hne
    rfl
  · rw [alternatives_written hne h]
    exact chosenKeys_trim fun atoms hatoms a ha => (h atoms hatoms a ha).1.settled

theorem firstBlockKeys_piece {p : Piece} (h : p.WellFormed) (t : Text) :
    Template.firstBlockKeys resolve (p.written ++ t)
      = p.askedFirst resolve ++ Template.firstBlockKeys resolve t := by
  cases p with
  | atom a =>
    have hpass : Passes Template.firstBlock? a.written :=
      (Atom.WellFormed.settled h).passes Template.startsSigned_firstBlock
    rw [Template.firstBlockKeys, Piece.written, hpass.occurrences_append, Piece.askedFirst,
      List.nil_append, Template.firstBlockKeys]
  | first alternatives =>
    rw [Template.firstBlockKeys, Text.occurrences_found (written_first_ne_nil alternatives)
      (firstBlock?_written h t), List.flatMap_cons, chosenKeys_written h, Piece.askedFirst,
      Template.firstBlockKeys]

theorem firstBlockKeys_part {p : Part} (h : p.WellFormed) (t : Text) :
    Template.firstBlockKeys resolve (p.written ++ t)
      = p.askedFirst resolve ++ Template.firstBlockKeys resolve t := by
  cases p with
  | piece p => exact firstBlockKeys_piece h t
  | «section» key inverted body =>
    obtain ⟨hkey, hfirst, hbody⟩ := h
    have hsign : (if inverted then '^' else '#') ≠ '{' := by
      cases inverted <;> decide
    have hopen := Template.passes_firstBlock_tag hkey hfirst hsign
    have hclose : Passes Template.firstBlock? (tag ('/' :: key)) :=
      Template.passes_firstBlock_tag hkey hfirst (by decide)
    have hskip : ∀ {u : Text}, Passes Template.firstBlock? u → ∀ t,
        Template.firstBlockKeys resolve (u ++ t) = Template.firstBlockKeys resolve t := by
      intro u hu t
      rw [Template.firstBlockKeys, hu.occurrences_append, Template.firstBlockKeys]
    rw [Part.written, Part.askedFirst, List.append_assoc, List.append_assoc, hskip hopen,
      Text.flatMap_parts (fun p hp => firstBlockKeys_piece (hbody p hp)), hskip hclose]

theorem firstBlockKeys_written {line : Line} (h : Line.WellFormed line) :
    Template.firstBlockKeys resolve (Line.written line)
      = line.flatMap (Part.askedFirst resolve) :=
  Text.flatMap_whole rfl fun p hp t => firstBlockKeys_part (h p hp) t

theorem sectionKeys_part {p : Part} (h : p.WellFormed)
    (hkeys : ∀ key ∈ p.firstKeys, '{' ∉ shown resolve key) (t : Text) :
    Template.sectionKeys ((p.settle resolve).written ++ t)
      = p.sectionKeys ++ Template.sectionKeys t := by
  cases p with
  | piece p =>
    have hsettled : (p.settle resolve).Settled := Piece.WellFormed.settled h hkeys
    have hpass : Passes Template.section? (Part.settle resolve (.piece p)).written :=
      hsettled.passes Template.startsSigned_section
    rw [Template.sectionKeys, hpass.occurrences_append, Part.sectionKeys, List.nil_append,
      Template.sectionKeys]
  | «section» key inverted body =>
    rw [Template.sectionKeys, Text.occurrences_found (written_section_ne_nil key inverted body)
      (section?_written h hkeys t), List.map_cons, Template.sectionKeys]
    rfl

theorem sectionKeys_written {line : Line} (h : Line.WellFormed line)
    (hkeys : ∀ key ∈ Line.firstKeys line, '{' ∉ shown resolve key) :
    Template.sectionKeys (Line.written (line.map (Part.settle resolve)))
      = line.flatMap Part.sectionKeys := by
  have hpart : ∀ p ∈ line, ∀ key ∈ p.firstKeys, '{' ∉ shown resolve key :=
    fun p hp key hkey => hkeys key (List.mem_flatMap.mpr ⟨p, hp, hkey⟩)
  rw [Line.written, List.flatMap_map]
  exact Text.flatMap_whole rfl fun p hp t => sectionKeys_part (h p hp) (hpart p hp) t

/-- A well-formed line asks for the keys of its parts. -/
theorem askedKeys_written {line : Line} (h : Line.WellFormed line)
    (hkeys : ∀ key ∈ Line.firstKeys line, '{' ∉ shown resolve key) :
    Template.askedKeys resolve (Line.written line) = Line.asked resolve line := by
  have hsettled : ∀ a ∈ line.flatMap (Part.atoms resolve), a.Settled := by
    intro a ha
    obtain ⟨p, hp, ha⟩ := List.mem_flatMap.mp ha
    exact (h p hp).atoms_settled (fun k hk => hkeys k (List.mem_flatMap.mpr ⟨p, hp, hk⟩)) a ha
  have hlast : (line.flatMap (Part.atoms resolve)).filterMap Atom.key?
      = line.flatMap (Part.askedLast resolve) := by
    rw [List.filterMap_flatMap]
    rfl
  rw [Template.askedKeys, firstBlockKeys_written h, resolveFirstBlocks_written h,
    sectionKeys_written h hkeys, Template.resolveBlocks, resolveFirstBlocks_written h,
    resolveSections_written h hkeys, substitutionKeys_atoms hsettled, hlast, Line.asked]

/-! ## Values decide by being blank -/

variable {r₁ r₂ : Resolver}

theorem isEmpty_shown (key : Text) : (shown resolve key).isEmpty = Text.isBlank (resolve key) := by
  rw [Bool.eq_iff_iff, List.isEmpty_iff, shown, Text.trim_eq_nil_iff]

/-- An atom is blank if its plain text or its value is. -/
def Atom.isBlank (resolve : Resolver) : Atom → Bool
  | .text t => Text.isBlank t
  | .value _ key => Text.isBlank (resolve key)

theorem isBlank_meaning (a : Atom) : Text.isBlank (a.meaning resolve) = a.isBlank resolve := by
  cases a with
  | text t => rfl
  | value triple key =>
    rw [Atom.meaning, Bool.eq_iff_iff, ← Text.trim_eq_nil_iff, shown, Text.trim_trim,
      Text.trim_eq_nil_iff, Atom.isBlank]

/-- An alternative renders to nothing when all of its atoms are blank. -/
theorem isEmpty_alternativeMeaning (atoms : List Atom) :
    (alternativeMeaning resolve atoms).isEmpty = atoms.all (Atom.isBlank resolve) := by
  have hall : Text.isBlank (atoms.flatMap (Atom.meaning resolve))
      = atoms.all (fun a => Text.isBlank (a.meaning resolve)) := List.all_flatMap
  rw [Bool.eq_iff_iff, List.isEmpty_iff, alternativeMeaning, Text.trim_eq_nil_iff, hall]
  simp only [isBlank_meaning]

theorem Atom.isBlank_congr (hblank : ∀ key, Text.isBlank (r₁ key) = Text.isBlank (r₂ key)) :
    Atom.isBlank r₁ = Atom.isBlank r₂ := by
  funext a
  cases a with
  | text t => rfl
  | value triple key => exact hblank key

theorem chosenKeys_congr (hblank : ∀ key, Text.isBlank (r₁ key) = Text.isBlank (r₂ key))
    (alternatives : List (List Atom)) :
    chosenKeys r₁ alternatives = chosenKeys r₂ alternatives := by
  induction alternatives with
  | nil => rfl
  | cons atoms rest ih =>
    rw [chosenKeys, chosenKeys, isEmpty_alternativeMeaning, isEmpty_alternativeMeaning,
      Atom.isBlank_congr hblank, ih]

theorem askedFirst_congr (hblank : ∀ key, Text.isBlank (r₁ key) = Text.isBlank (r₂ key)) :
    Part.askedFirst r₁ = Part.askedFirst r₂ := by
  have hpiece : Piece.askedFirst r₁ = Piece.askedFirst r₂ := by
    funext p
    cases p with
    | atom a => rfl
    | first alternatives => exact chosenKeys_congr hblank alternatives
  funext p
  cases p with
  | piece p => exact congrFun hpiece p
  | «section» key inverted body => rw [Part.askedFirst, Part.askedFirst, hpiece]

theorem stands_congr (hblank : ∀ key, Text.isBlank (r₁ key) = Text.isBlank (r₂ key)) :
    stands r₁ = stands r₂ := by
  funext key inverted
  rw [stands, stands, isEmpty_shown, isEmpty_shown, hblank]

/-- What the first scan leaves of a piece is a value only where the piece is one. -/
theorem key?_settle (r₁ r₂ : Resolver) (p : Piece) : (p.settle r₁).key? = (p.settle r₂).key? := by
  cases p <;> rfl

theorem askedLast_congr (hblank : ∀ key, Text.isBlank (r₁ key) = Text.isBlank (r₂ key)) :
    Part.askedLast r₁ = Part.askedLast r₂ := by
  funext p
  cases p with
  | piece p => simp only [Part.askedLast, Part.atoms, List.filterMap_cons, key?_settle r₁ r₂]
  | «section» key inverted body =>
    rw [Part.askedLast, Part.askedLast, Part.atoms, Part.atoms, stands_congr hblank]
    split
    · rw [List.filterMap_map, List.filterMap_map]
      exact congrArg (body.filterMap ·) (funext (key?_settle r₁ r₂))
    · rfl

/-- **The text of a value never decides what is looked up.** Two resolvers whose values are blank
for the same keys are asked for the same keys, in the same order, by every well-formed line, as long
as the values shown in first-blocks hold no opening brace. -/
theorem askedKeys_blind (line : Line) (h : Line.WellFormed line) (r₁ r₂ : Resolver)
    (hblank : ∀ key, Text.isBlank (r₁ key) = Text.isBlank (r₂ key))
    (h₁ : ∀ key ∈ Line.firstKeys line, '{' ∉ shown r₁ key)
    (h₂ : ∀ key ∈ Line.firstKeys line, '{' ∉ shown r₂ key) :
    Template.askedKeys r₁ (Line.written line) = Template.askedKeys r₂ (Line.written line) := by
  rw [askedKeys_written h h₁, askedKeys_written h h₂, Line.asked, Line.asked,
    askedFirst_congr hblank, askedLast_congr hblank]

/-- Two sets of values, blank for the same keys, and a line with a part of every kind. -/
theorem askedKeys_blind_everyPart :
    let r₁ : Resolver := fun key => if key = "city".toList then "Bern" else []
    let r₂ : Resolver := fun key => if key = "city".toList then "Biel \x7d\x7d" else " "
    let line : Line :=
      [.piece (.first
          [[.value true "town"], [.text " ", .value false "city"], [.value true "box"]]),
        .section "city" false [.atom (.value true "state")],
        .section "box" false [.atom (.text "?")]]
    Line.WellFormed line
      ∧ (∀ key, Text.isBlank (r₁ key) = Text.isBlank (r₂ key))
      ∧ (∀ key ∈ Line.firstKeys line, '{' ∉ shown r₁ key)
      ∧ (∀ key ∈ Line.firstKeys line, '{' ∉ shown r₂ key)
      ∧ Template.askedKeys r₂ (Line.written line)
        = (["town", "city", "city", "box", "state"] : List Text) := by
  intro r₁ r₂ line
  have hform : Line.WellFormed line := by decide
  have hblank : ∀ key, Text.isBlank (r₁ key) = Text.isBlank (r₂ key) := by
    intro key
    by_cases hkey : key = "city".toList
    · simp only [r₁, r₂, hkey, if_true]
      decide
    · simp only [r₁, r₂, hkey, if_false]
      decide
  have h₁ : ∀ key ∈ Line.firstKeys line, '{' ∉ shown r₁ key := by decide
  have h₂ : ∀ key ∈ Line.firstKeys line, '{' ∉ shown r₂ key := by decide
  refine ⟨hform, hblank, h₁, h₂, ?_⟩
  rw [← askedKeys_blind line hform r₁ r₂ hblank h₁ h₂]
  decide +kernel

/-- A value that is shown in a first-block is scanned again, and the key that it spells out is
looked up. -/
theorem askedKeys_rescanned :
    let line : Line := [.piece (.first [[.value false "a"]])]
    let both : Text → Resolver := fun v key =>
      if key = "a".toList ∨ key = "b".toList then v else []
    let r₁ : Resolver := both "A"
    let r₂ : Resolver := both "\x7b\x7bb\x7d\x7d"
    Line.WellFormed line
      ∧ (∀ key, Text.isBlank (r₁ key) = Text.isBlank (r₂ key))
      ∧ Template.askedKeys r₁ (Line.written line) = (["a"] : List Text)
      ∧ Template.askedKeys r₂ (Line.written line) = (["a", "b"] : List Text) := by
  intro line both r₁ r₂
  refine ⟨by decide, fun key => ?_, by decide +kernel, by decide +kernel⟩
  by_cases hkey : key = "a".toList ∨ key = "b".toList
  · simp only [r₁, r₂, both, if_pos hkey]
    decide
  · simp only [r₁, r₂, both, if_neg hkey]

end Gazetteer.Address
