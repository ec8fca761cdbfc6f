/-
# Gazetteer.Proofs.Address.Trimming -- white space around a template line

A template line may be trimmed before it is rendered, whatever stands in it. No tag starts or ends
with white space, and none reaches over the end of the line, so all three stages see the same tags
with white space around the line as without it; what they leave is tidied at the end anyway.
-/
import Gazetteer.Proofs.Address.Tags

namespace Gazetteer.Address.Template

/-! ## Sections and first-blocks -/

/-- The characters of a tag are no white space. -/
theorem tag_notMem {k b : Text} (hb : Text.isBlank b = true) (hk : ∀ c ∈ k, isWordChar c = true)
    {sign : Char} (hsign : Text.isBlankChar sign = false) : ∀ c ∈ tag (sign :: k), c ∉ b := by
  intro c hc
  refine notMem_of_isBlank hb ?_
  simp only [tag, opening, closing, List.mem_append, List.mem_cons, List.not_mem_nil, or_false]
    at hc
  rcases hc with ((rfl | rfl) | rfl | hc) | rfl | rfl
  · decide
  · decide
  · exact hsign
  · rw [Bool.eq_false_iff]
    intro hblank
    have hword := isWordChar_of_isBlankChar hblank
    rw [hk c hc] at hword
    exact absurd hword (by simp)
  · decide
  · decide

/-- White space has no part in a section. -/
theorem section?_append_blank {b : Text} (hb : Text.isBlank b = true)
    (t : Text) : section? (t ++ b) = section? t := by
  have hopening : ∀ c ∈ opening, c ∉ b := by
    intro c hc
    rw [List.eq_of_mem_replicate (n := 2) hc]
    exact notMem_of_isBlank hb (by decide)
  have hclosing : ∀ c ∈ closing, c ∉ b := by
    intro c hc
    rw [List.eq_of_mem_replicate (n := 2) hc]
    exact notMem_of_isBlank hb (by decide)
  rw [section?, section?, Text.isPrefixOf?_append_of_notMem hopening]
  cases opening.isPrefixOf? t with
  | none => rfl
  | some rest =>
    cases rest with
    | nil =>
      -- Two braces with only white space behind them are not followed by a sign.
      cases b with
      | nil => rfl
      | cons c b =>
        have hsign : sectionSign? c = none := by
          have hc : Text.isBlankChar c = true := List.all_eq_true.mp hb c (by simp)
          unfold sectionSign?
          split
          · exact absurd hc (by decide)
          · exact absurd hc (by decide)
          · rfl
        simp only [Option.map_some, List.nil_append, hsign, Option.bind_eq_bind, Option.bind_none]
    | cons sign inner =>
      have hlength : (leadingWord inner).length ≤ inner.length :=
        (List.takeWhile_prefix isWordChar).length_le
      have hclose : ∀ c ∈ tag ('/' :: leadingWord inner), c ∉ b :=
        tag_notMem hb (fun c hc => List.all_eq_true.mp List.all_takeWhile c hc) (by decide)
      have hne : tag ('/' :: leadingWord inner) ≠ [] := by simp [tag, opening]
      simp only [Option.map_some, List.cons_append, leadingWord_append_blank hb,
        List.drop_append_of_le_length hlength, Text.isPrefixOf?_append_of_notMem hclosing]
      cases closing.isPrefixOf? (inner.drop (leadingWord inner).length) with
      | none => rfl
      | some content =>
        simp only [Option.map_some, Option.bind_eq_bind, Option.bind_some,
          Text.cut?_append_of_notMem hne hclose, Option.map_map]
        rfl

theorem length_le_of_section? {t : Text} {s : Section} {size : Nat}
    (h : section? t = some (s, size)) : size ≤ t.length := by
  obtain ⟨sign, after, -, -, rfl, rfl⟩ := of_section? h
  simp only [List.length_append]
  omega

/-- White space behind a line makes no difference to its sections. -/
theorem section?_ignores {b : Text} (hb : Text.isBlank b = true) :
    Text.Form.Ignores section? b where
  size_le := length_le_of_section?
  append := fun _ => section?_append_blank hb _
  passes := startsSigned_section.startsBraced.passes (notMem_of_isBlank hb (by decide))

/-- White space behind a line makes no difference to its first-blocks. -/
theorem firstBlock?_ignores {b : Text} (hb : Text.isBlank b = true) :
    Text.Form.Ignores firstBlock? b where
  size_le := by
    intro t found size h
    obtain ⟨body, after, -, rfl, rfl⟩ := of_firstBlock? h
    simp only [List.length_append]
    omega
  append := by
    intro t _
    have hword : ∀ c ∈ "first".toList, isWordChar c = true := by decide
    have hopen : ∀ c ∈ firstOpen, c ∉ b := tag_notMem hb hword (by decide)
    have hclose : ∀ c ∈ firstClose, c ∉ b := tag_notMem hb hword (by decide)
    rw [firstBlock?, firstBlock?, Text.isPrefixOf?_append_of_notMem hopen]
    cases firstOpen.isPrefixOf? t with
    | none => rfl
    | some content =>
      simp only [Option.map_some, Option.bind_eq_bind, Option.bind_some,
        Text.cut?_append_of_notMem (by decide) hclose, Option.map_map]
      rfl
  passes := startsSigned_firstBlock.startsBraced.passes (notMem_of_isBlank hb (by decide))

/-! ## The whole line -/

/-- Each of the three stages keeps the white space at the ends of a text, and what it makes of the
rest does not depend on it. -/
theorem substitute_resolveBlocks_between {a b : Text} (ha : Text.isBlank a = true)
    (hb : Text.isBlank b = true) (resolve : Resolver) (t : Text) :
    substitute resolve (resolveBlocks resolve (a ++ (t ++ b)))
      = a ++ (substitute resolve (resolveBlocks resolve t) ++ b) := by
  have hfirst : resolveFirstBlocks resolve (a ++ (t ++ b))
      = a ++ (resolveFirstBlocks resolve t ++ b) :=
    (firstBlock?_ignores hb).replaceWith_between (firstBlock?_ignores ha).passes t
  have hsections : ∀ u, resolveSections resolve (a ++ (u ++ b))
      = a ++ (resolveSections resolve u ++ b) :=
    (section?_ignores hb).replaceWith_between (section?_ignores ha).passes
  have hsubst : ∀ u, substitute resolve (a ++ (u ++ b)) = a ++ (substitute resolve u ++ b) :=
    (substitution?_ignores hb).replaceWith_between (substitution?_ignores ha).passes
  rw [resolveBlocks, hfirst, hsections, hsubst, resolveBlocks]

/-- **A line renders as its trimmed form does**, whether it is well formed or not. -/
theorem renderLine_trim (resolve : Resolver) (line : Text) :
    renderLine resolve (Text.trim line) = renderLine resolve line := by
  obtain ⟨a, b, ha, hb, hline⟩ := Text.exists_trim line
  conv_rhs => rw [hline, renderLine, substitute_resolveBlocks_between ha hb]
  rw [renderLine, cleanUp, cleanUp, Text.tidy_between ha hb]

/-- A line substitutes the keys that its trimmed form does. -/
theorem substitutionKeys_trim (line : Text) :
    substitutionKeys (Text.trim line) = substitutionKeys line := by
  obtain ⟨a, b, ha, hb, hline⟩ := Text.exists_trim line
  conv_rhs => rw [hline]
  exact ((substitution?_ignores hb).occurrences_between (substitution?_ignores ha).passes _).symm

end Gazetteer.Address.Template
