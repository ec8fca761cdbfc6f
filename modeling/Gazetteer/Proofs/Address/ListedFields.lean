/-
# Gazetteer.Proofs.Address.ListedFields -- the listed fields are all that matters

The fields that a template uses are listed by one scan of its lines as they stand. Rendering looks
keys up in texts that earlier scans have rewritten. On well-formed lines it still asks for no key
that the first scan did not list, section keys apart, so the values of all other fields make no
difference to the rendered lines.
-/
import Gazetteer.Address.Render
import Gazetteer.Proofs.Address.Asking
import Gazetteer.Proofs.Address.FieldSets

namespace Gazetteer.Address

open Template (IsKey Resolver shown tag firstOpen firstClose)
open Text (Passes)

variable {resolve : Resolver}

/-! ## Fields and their keys -/

theorem Field.ofKey?_eq_some_iff {k : Text} {f : Field} : Field.ofKey? k = some f ↔ f.key = k := by
  constructor
  · intro h
    unfold Field.ofKey? at h
    simpa using List.find?_some h
  · rintro rfl
    cases f <;> rfl

/-- A template uses a field if the key of the field is substituted in one of its lines. -/
theorem mem_requiredFields {template : Option (List Text)} {f : Field} :
    f ∈ requiredFields template
      ↔ ∃ line ∈ template.getD [], f.key ∈ Template.substitutionKeys line := by
  rw [requiredFields, Field.mem_collected, substitutedFields, List.mem_filterMap]
  simp only [Field.ofKey?_eq_some_iff, exists_eq_right', List.mem_flatMap]

/-! ## The scan of a line as it stands -/

/-- The keys whose values a piece may show. -/
def Piece.valueKeys : Piece → List Text
  | .atom a => a.key?.toList
  | .first alternatives => alternatives.flatMap (·.filterMap Atom.key?)

/-- The keys whose values a part may show. -/
def Part.valueKeys : Part → List Text
  | .piece p => p.valueKeys
  | .section _ _ body => body.flatMap Piece.valueKeys

/-- The keys whose values a line may show. -/
def Line.valueKeys (line : Line) : List Text := line.flatMap Part.valueKeys

/-- The keys of the sections of a line. -/
def Line.sectionKeys (line : Line) : List Text := line.flatMap Part.sectionKeys

/-- A section tag is no substitution. -/
theorem passes_substitution_tag {k : Text} (hk : IsKey k) {sign : Char}
    (hsign : sign ∈ ['#', '^', '/']) : Passes Template.substitution? (tag (sign :: k)) := by
  have hword : Template.isWordChar sign = false := by
    revert sign
    decide
  have hbrace : sign ≠ '{' := by
    revert sign
    decide
  have hrest : '{' ∉ sign :: k ++ Template.closing := by
    have hmem : '{' ∉ k := hk.notMem (by decide)
    simp [Template.closing, hmem, hbrace.symm]
  have hthree : ∀ t, Template.braced 3 ('{' :: '{' :: sign :: t) = none := by
    intro t
    apply Template.braced_eq_none
    simp [List.replicate_succ, List.cons_prefix_cons, hbrace.symm]
  have htwo : ∀ t, Template.braced 2 ('{' :: '{' :: sign :: t) = none := by
    intro t
    have hkey : Template.leadingWord (sign :: t) = [] :=
      List.takeWhile_cons_of_neg (by simp [hword])
    simp [Template.braced, List.replicate_succ, List.isPrefixOf?, hkey]
  refine .cons ?_ (.cons ?_ (Template.startsBraced_substitution.passes hrest))
  · intro t
    show Template.substitution? ('{' :: '{' :: sign :: (k ++ Template.closing ++ t)) = none
    rw [Template.substitution?, hthree, htwo]
    rfl
  -- At the second brace only one brace is left.
  · intro t
    show Template.substitution? ('{' :: sign :: (k ++ Template.closing ++ t)) = none
    have hone : ∀ n,
        Template.braced (n + 2) ('{' :: sign :: (k ++ Template.closing ++ t)) = none := by
      intro n
      apply Template.braced_eq_none
      simp [List.replicate_succ, List.cons_prefix_cons, hbrace.symm]
    rw [Template.substitution?, hone 1, hone 0]
    rfl

theorem substitutionKeys_skip {u : Text} (hu : Passes Template.substitution? u) (t : Text) :
    Template.substitutionKeys (u ++ t) = Template.substitutionKeys t :=
  hu.occurrences_append t

theorem substitutionKeys_piece {p : Piece} (h : p.WellFormed) (t : Text) :
    Template.substitutionKeys (p.written ++ t)
      = p.valueKeys ++ Template.substitutionKeys t := by
  cases p with
  | atom a => exact substitutionKeys_atom (Atom.WellFormed.settled h) t
  | first alternatives =>
    have hfirst : IsKey "first".toList := by decide
    have hopen : Passes Template.substitution? firstOpen :=
      passes_substitution_tag hfirst (List.mem_cons_self ..)
    have hclose : Passes Template.substitution? firstClose :=
      passes_substitution_tag hfirst (by decide)
    have hbars : Passes Template.substitution? "||".toList :=
      Template.startsBraced_substitution.passes (by decide)
    have hbody : ∀ t, Template.substitutionKeys (firstBody alternatives ++ t)
        = alternatives.flatMap (·.filterMap Atom.key?) ++ Template.substitutionKeys t := by
      refine Text.joined_parts (substitutionKeys_skip hbars) fun atoms hatoms t => ?_
      rw [List.filterMap_eq_flatMap_toList]
      exact Text.flatMap_parts
        (fun a ha t => substitutionKeys_atom (h atoms hatoms a ha).1.settled t) t
    rw [written_first, List.append_assoc, List.append_assoc, substitutionKeys_skip hopen, hbody,
      substitutionKeys_skip hclose, Piece.valueKeys]

theorem substitutionKeys_part {p : Part} (h : p.WellFormed) (t : Text) :
    Template.substitutionKeys (p.written ++ t)
      = p.valueKeys ++ Template.substitutionKeys t := by
  cases p with
  | piece p => exact substitutionKeys_piece h t
  | «section» key inverted body =>
    obtain ⟨hkey, -, hbody⟩ := h
    have hsign : (if inverted then '^' else '#') ∈ ['#', '^', '/'] := by
      cases inverted <;> decide
    have hopen := passes_substitution_tag hkey hsign
    have hclose : Passes Template.substitution? (tag ('/' :: key)) :=
      passes_substitution_tag hkey (by simp)
    rw [Part.written, Part.valueKeys, List.append_assoc, List.append_assoc,
      substitutionKeys_skip hopen,
      Text.flatMap_parts (fun p hp => substitutionKeys_piece (hbody p hp)),
      substitutionKeys_skip hclose]

/-- The scan of a line as it stands lists the keys of all its values. -/
theorem substitutionKeys_written {line : Line} (h : Line.WellFormed line) :
    Template.substitutionKeys (Line.written line) = Line.valueKeys line :=
  Text.flatMap_whole rfl fun p hp t => substitutionKeys_part (h p hp) t

/-! ## What rendering asks for -/

/-- A first-block asks for no key that does not stand in it. -/
theorem mem_of_mem_chosenKeys {k : Text} {alternatives : List (List Atom)}
    (h : k ∈ chosenKeys resolve alternatives) :
    k ∈ alternatives.flatMap (·.filterMap Atom.key?) := by
  induction alternatives with
  | nil => exact h
  | cons atoms rest ih =>
    rw [chosenKeys, List.mem_append] at h
    rw [List.flatMap_cons, List.mem_append]
    rcases h with h | h
    · exact .inl h
    · split at h
      · exact .inr (ih h)
      · exact absurd h (by simp)

theorem mem_of_mem_askedFirst {k : Text} {p : Part} (h : k ∈ p.askedFirst resolve) :
    k ∈ p.valueKeys := by
  have hpiece : ∀ p : Piece, k ∈ p.askedFirst resolve → k ∈ p.valueKeys := by
    intro p hp
    cases p with
    | atom a => exact absurd hp (by simp [Piece.askedFirst])
    | first alternatives => exact mem_of_mem_chosenKeys hp
  cases p with
  | piece p => exact hpiece p h
  | «section» key inverted body =>
    obtain ⟨p, hp, hk⟩ := List.mem_flatMap.mp h
    exact List.mem_flatMap.mpr ⟨p, hp, hpiece p hk⟩

/-- What the first two scans leave of a part holds no key that the part did not hold. -/
theorem mem_of_mem_askedLast {k : Text} {p : Part} (h : k ∈ p.askedLast resolve) :
    k ∈ p.valueKeys := by
  have hpiece : ∀ p : Piece, (p.settle resolve).key? = some k → k ∈ p.valueKeys := by
    intro p hp
    cases p with
    | atom a => exact Option.mem_toList.mpr hp
    | first alternatives => exact absurd hp (by simp [Piece.settle, Atom.key?])
  obtain ⟨a, ha, hk⟩ := List.mem_filterMap.mp h
  cases p with
  | piece p =>
    rw [Part.atoms, List.mem_singleton] at ha
    exact hpiece p (ha ▸ hk)
  | «section» key inverted body =>
    rw [Part.atoms] at ha
    split at ha
    · obtain ⟨p, hp, rfl⟩ := List.mem_map.mp ha
      exact List.mem_flatMap.mpr ⟨p, hp, hpiece p hk⟩
    · exact absurd ha (by simp)

/-- A line asks for its values and its sections only. -/
theorem mem_of_mem_asked {k : Text} {line : Line} (h : k ∈ Line.asked resolve line) :
    k ∈ Line.valueKeys line ∨ k ∈ Line.sectionKeys line := by
  rw [Line.asked, List.mem_append, List.mem_append] at h
  rcases h with (hfirst | hsection) | hlast
  · obtain ⟨p, hp, hk⟩ := List.mem_flatMap.mp hfirst
    exact .inl (List.mem_flatMap.mpr ⟨p, hp, mem_of_mem_askedFirst hk⟩)
  · exact .inr hsection
  · obtain ⟨p, hp, hk⟩ := List.mem_flatMap.mp hlast
    exact .inl (List.mem_flatMap.mpr ⟨p, hp, mem_of_mem_askedLast hk⟩)

/-! ## Values -/

/-- The value of a key is trimmed, so a line shows it as it is. -/
theorem shown_value (c : Components) (k : Text) : shown c.value k = c.value k := by
  rw [shown, Components.value]
  split
  · exact Text.trim_trim _
  · rfl

theorem value_key (c : Components) (f : Field) :
    c.value f.key = ((c.get? f).map Text.trim).getD [] := by
  have hfield : Field.ofKey? f.key = some f := Field.ofKey?_eq_some_iff.mpr rfl
  rw [Components.value, hfield, Option.bind_some]
  cases c.get? f <;> rfl

/-- A key of no field has no value. -/
theorem value_of_ofKey?_eq_none {k : Text} (h : Field.ofKey? k = none) (c : Components) :
    c.value k = [] := by
  rw [Components.value, h]
  rfl

theorem value_congr {c₁ c₂ : Components} {k : Text}
    (h : ∀ f : Field, f.key = k → c₁.value k = c₂.value k) : c₁.value k = c₂.value k := by
  cases hfield : Field.ofKey? k with
  | some f => exact h f (Field.ofKey?_eq_some_iff.mp hfield)
  | none => rw [value_of_ofKey?_eq_none hfield, value_of_ofKey?_eq_none hfield]

theorem notMem_value {c : Components} {ch : Char} (h : ∀ f, ∀ v ∈ c.get? f, ch ∉ v) (k : Text) :
    ch ∉ c.value k := by
  rw [Components.value]
  split
  · rename_i v hv
    obtain ⟨f, -, hf⟩ := Option.bind_eq_some_iff.mp hv
    intro hmem
    exact h f v hf ((Text.trim_sublist v).subset hmem)
  · simp

/-- An absent value, an empty one and one of white space are the same to every key. -/
theorem value_eq_of_nonBlank? {c₁ c₂ : Components}
    (h : ∀ f, Text.nonBlank? (c₁.get? f) = Text.nonBlank? (c₂.get? f)) : c₁.value = c₂.value := by
  have hblank : ∀ v : Option Text,
      (v.map Text.trim).getD [] = ((Text.nonBlank? v).map Text.trim).getD [] := by
    intro v
    cases v with
    | none => rfl
    | some t =>
      cases ht : Text.isBlank t with
      | false => rw [Text.nonBlank?, Option.filter_some_pos (by simp [ht])]
      | true =>
        rw [Text.nonBlank?, Option.filter_some_neg (by simp [ht])]
        exact (Text.trim_eq_nil_iff t).mpr ht
  funext k
  apply value_congr
  rintro f rfl
  rw [value_key, value_key, hblank, h f, ← hblank]

/-- A template that has lines is rendered line by line. -/
theorem renderLines_of_ne_nil (c : Components) {lines : List Text} (h : lines ≠ []) :
    renderLines c (some lines)
      = some ((lines.map (Template.renderLine c.value)).filter (fun l => !l.isEmpty)) := by
  match lines, h with
  | _ :: _, _ => rfl

theorem renderLines_congr {c₁ c₂ : Components} {lines : List Text}
    (h : ∀ line ∈ lines, Template.renderLine c₁.value line = Template.renderLine c₂.value line) :
    renderLines c₁ (some lines) = renderLines c₂ (some lines) := by
  cases lines with
  | nil => rfl
  | cons line lines =>
    exact congrArg (fun ls => some (ls.filter fun l => !l.isEmpty)) (List.map_congr_left h)

/-- **The listed fields are all that matters.** Two sets of components whose trimmed values agree on
the fields that a template of well-formed lines lists, and on those that its sections name, give the
same lines, if the values of one hold no opening brace. And a value that is absent, one that is
empty and one of white space can stand for each other in every template. -/
theorem renderLines_listed (lines : List Line) (h : ∀ line ∈ lines, Line.WellFormed line)
    (c₁ c₂ : Components)
    (hlisted : ∀ f ∈ requiredFields (some (lines.map Line.written)),
      c₁.value f.key = c₂.value f.key)
    (hsections : ∀ line ∈ lines, ∀ f : Field, f.key ∈ Line.sectionKeys line →
      c₁.value f.key = c₂.value f.key)
    (hbrace : ∀ f, ∀ v ∈ c₁.get? f, '{' ∉ v) :
    renderLines c₁ (some (lines.map Line.written)) = renderLines c₂ (some (lines.map Line.written))
      ∧ ∀ (c c' : Components) (template : Option (List Text)),
        (∀ f, Text.nonBlank? (c.get? f) = Text.nonBlank? (c'.get? f)) →
          renderLines c template = renderLines c' template := by
  constructor
  · apply renderLines_congr
    intro text htext
    obtain ⟨line, hline, rfl⟩ := List.mem_map.mp htext
    have hkeys : ∀ key ∈ Line.firstKeys line, '{' ∉ shown c₁.value key := by
      intro key _
      rw [shown_value]
      exact notMem_value hbrace key
    refine (Template.renderLine_congr fun k hk => ?_).1
    rw [askedKeys_written (h line hline) hkeys] at hk
    rw [shown_value, shown_value]
    apply value_congr
    rintro f rfl
    rcases mem_of_mem_asked hk with hvalue | hsection
    · apply hlisted f
      rw [mem_requiredFields]
      refine ⟨Line.written line, htext, ?_⟩
      rwa [substitutionKeys_written (h line hline)]
    · exact hsections line hline f hsection
  · intro c c' template hsame
    cases template with
    | none => rfl
    | some lines =>
      apply renderLines_congr
      intro line _
      rw [value_eq_of_nonBlank? hsame]

/-- Two sets of components that differ in a field of no line, and in how a field is unset. -/
theorem renderLines_listed_unset :
    let road : Atom := .value true (Field.key .road)
    let lines : List Line :=
      [[.firstField [.city, .suburb]], [.section (Field.key .state) false [.atom road]]]
    let c₁ : Components := .ofPairs [(.city, " Perth "), (.state, "WA"), (.road, "Hay St")]
    let c₂ : Components :=
      .ofPairs [(.city, "Perth"), (.suburb, " "), (.state, "WA"), (.road, "Hay St"),
        (.recipient, "\x7b\x7broad\x7d\x7d")]
    (∀ line ∈ lines, Line.WellFormed line)
      ∧ (∀ f ∈ requiredFields (some (lines.map Line.written)), c₁.value f.key = c₂.value f.key)
      ∧ (∀ line ∈ lines, ∀ f : Field, f.key ∈ Line.sectionKeys line →
        c₁.value f.key = c₂.value f.key)
      ∧ (∀ f, ∀ v ∈ c₁.get? f, '{' ∉ v)
      ∧ renderLines c₂ (some (lines.map Line.written))
        = some (["Perth", "Hay St"] : List Text) := by
  intro road lines c₁ c₂
  have hlisted : ∀ f ∈ requiredFields (some (lines.map Line.written)),
      c₁.value f.key = c₂.value f.key := by decide +kernel
  have hsections : ∀ line ∈ lines, ∀ f : Field, f.key ∈ Line.sectionKeys line →
      c₁.value f.key = c₂.value f.key := by
    intro line hline f
    revert line
    cases f <;> decide +kernel
  have hbrace : ∀ f, ∀ v ∈ c₁.get? f, '{' ∉ v := by
    intro f
    cases f <;> decide +kernel
  have h : ∀ line ∈ lines, Line.WellFormed line := by decide
  refine ⟨h, hlisted, hsections, hbrace, ?_⟩
  rw [← (renderLines_listed lines h c₁ c₂ hlisted hsections hbrace).1]
  decide +kernel

end Gazetteer.Address
