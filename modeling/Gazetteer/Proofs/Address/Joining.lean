/-
# Gazetteer.Proofs.Address.Joining -- an address is its lines, and its lines can be read back

An address in one text is its lines with line ends between them. The lines can be told apart again
because none of them is empty and none holds a line end of its own. For the second it has to be said
where the characters of a rendered line come from, whatever the template line looks like: from the
line, from a value, or from tidying, which puts in spaces only. So if no template line and no value
holds a line end, neither does what is rendered.
-/
import Gazetteer.Proofs.Address.TidyLines

namespace Gazetteer.Address

namespace Template

variable {resolve : Resolver} {c : Char} {t : Text}

/-! ## Where the characters of a line come from -/

theorem mem_substitute (h : c ∈ substitute resolve t) : c ∈ t ∨ ∃ k, c ∈ shown resolve k := by
  rcases Text.mem_replaceWith h with ht | ⟨k, -, hk⟩
  · exact Or.inl ht
  · exact Or.inr ⟨k, hk⟩

/-- Sections are cut out or opened; no value is shown. -/
theorem mem_resolveSections (h : c ∈ resolveSections resolve t) : c ∈ t := by
  rcases Text.mem_replaceWith h with ht | ⟨s, hs, hc⟩
  · exact ht
  · obtain ⟨u, v, size, rfl, hform⟩ := Text.exists_of_mem_occurrences hs
    obtain ⟨sign, after, -, -, rfl, -⟩ := of_section? hform
    have hbody : c ∈ s.body := by
      unfold Section.expand at hc
      split at hc
      · exact hc
      · exact absurd hc List.not_mem_nil
    simp [hbody]

theorem mem_chooseFirst {alternatives : List Text} (h : c ∈ chooseFirst resolve alternatives) :
    (∃ a ∈ alternatives, c ∈ a) ∨ ∃ k, c ∈ shown resolve k := by
  induction alternatives with
  | nil => exact absurd h List.not_mem_nil
  | cons a rest ih =>
    unfold chooseFirst at h
    dsimp only at h
    split at h
    · refine (ih h).imp_left ?_
      rintro ⟨b, hb, hc⟩
      exact ⟨b, List.mem_cons_of_mem a hb, hc⟩
    · have hmem : c ∈ substitute resolve a := (Text.trim_sublist _).subset h
      exact (mem_substitute hmem).imp_left fun ha => ⟨a, List.mem_cons_self, ha⟩

theorem mem_resolveFirstBlocks (h : c ∈ resolveFirstBlocks resolve t) :
    c ∈ t ∨ ∃ k, c ∈ shown resolve k := by
  rcases Text.mem_replaceWith h with ht | ⟨found, hfound, hc⟩
  · exact Or.inl ht
  · obtain ⟨u, v, size, rfl, hform⟩ := Text.exists_of_mem_occurrences hfound
    obtain ⟨body, after, rfl, rfl, -⟩ := of_firstBlock? hform
    refine (mem_chooseFirst hc).imp_left ?_
    rintro ⟨a, ha, hca⟩
    obtain ⟨part, hpart, rfl⟩ := List.mem_map.mp ha
    have hbody : c ∈ body := Text.mem_of_mem_splitOn hpart ((Text.trim_sublist part).subset hca)
    simp [hbody]

/-- Every character of a rendered line is a space, or it stands in the line or in a value. -/
theorem mem_renderLine {line : Text} (h : c ∈ renderLine resolve line) :
    c = ' ' ∨ c ∈ line ∨ ∃ k, c ∈ shown resolve k := by
  have htidy : c ∈ Text.tidy (substitute resolve (resolveBlocks resolve line)) := by
    unfold renderLine cleanUp at h
    dsimp only at h
    split at h
    · exact h
    · exact absurd h List.not_mem_nil
  rcases Text.mem_tidy htidy with hspace | hleft
  · exact Or.inl hspace
  · rcases mem_substitute hleft with hblocks | hvalue
    · exact Or.inr (mem_resolveFirstBlocks (mem_resolveSections hblocks))
    · exact Or.inr (Or.inr hvalue)

end Template

/-! ## The lines of an address -/

variable {c : Components}

/-- A rendered line holds no line end, if none stands in the line and none in a value. -/
theorem lineEnd_notMem_renderLine {line : Text} (hline : '\n' ∉ line)
    (hvalues : ∀ f, ∀ v ∈ c.get? f, '\n' ∉ v) : '\n' ∉ Template.renderLine c.value line := by
  intro h
  rcases Template.mem_renderLine h with hspace | hin | ⟨k, hk⟩
  · exact absurd hspace (by decide)
  · exact hline hin
  · rw [shown_value] at hk
    exact notMem_value hvalues k hk

/-- Lines that are not empty make no empty text. -/
theorem joined_eq_nil_iff {lines : List Text} (h : ∀ shown ∈ lines, shown ≠ []) :
    Text.joined ['\n'] lines = [] ↔ lines = [] := by
  constructor
  · intro hnil
    cases lines with
    | nil => rfl
    | cons first rest =>
      have hfirst : first ≠ [] := h first List.mem_cons_self
      cases rest with
      | nil =>
        rw [Text.joined, List.intercalate_singleton] at hnil
        exact absurd hnil hfirst
      | cons second rest =>
        rw [Text.joined, List.intercalate_cons_cons] at hnil
        exact absurd hnil (by simp)
  · rintro rfl
    rfl

/-- **Joining lines loses nothing.** If neither the template lines nor the values hold a line end,
the address is the empty text exactly if there is no line, and else splitting it at the line ends
gives its lines, in the order of the template. And a template that continues another gives the lines
of the one and then those of the other. -/
theorem render_splitsBack (c : Components) :
    (∀ template : List Text, template ≠ [] → (∀ line ∈ template, '\n' ∉ line) →
      (∀ f, ∀ v ∈ c.get? f, '\n' ∉ v) →
        ∃ lines text, renderLines c (some template) = some lines
          ∧ render c (some template) = some text
          ∧ (text = [] ↔ lines = [])
          ∧ (lines ≠ [] → List.splitOn '\n' text = lines)
          ∧ lines.Sublist (template.map (Template.renderLine c.value)))
    ∧ ∀ first second : List Text, first ≠ [] → second ≠ [] →
      ∃ before behind, renderLines c (some first) = some before
        ∧ renderLines c (some second) = some behind
        ∧ renderLines c (some (first ++ second)) = some (before ++ behind) := by
  constructor
  · intro template hne hlines hvalues
    have hrendered := renderLines_of_ne_nil c hne
    generalize hshown : (template.map (Template.renderLine c.value)).filter
      (fun l => !l.isEmpty) = lines at hrendered
    have hall : ∀ shown ∈ lines, shown ≠ [] ∧ '\n' ∉ shown := by
      intro shown hmem
      obtain ⟨hshown, line, hline, rfl⟩ := exists_line_of_mem_renderLines hrendered hmem
      exact ⟨hshown, lineEnd_notMem_renderLine (hlines line hline) hvalues⟩
    refine ⟨lines, Text.joined ['\n'] lines, hrendered, ?_, ?_, ?_, ?_⟩
    · rw [render, hrendered]
      rfl
    · exact joined_eq_nil_iff fun shown hmem => (hall shown hmem).1
    · exact List.splitOn_intercalate '\n' fun shown hmem => (hall shown hmem).2
    · rw [← hshown]
      exact List.filter_sublist
  · intro first second hfirst hsecond
    have hboth : first ++ second ≠ [] := List.append_ne_nil_of_left_ne_nil hfirst second
    refine ⟨_, _, renderLines_of_ne_nil c hfirst, renderLines_of_ne_nil c hsecond, ?_⟩
    rw [renderLines_of_ne_nil c hboth, List.map_append, List.filter_append]

/-- A block that is not closed, a line that shows nothing, a tab and a carriage return. -/
theorem render_splitsBack_unclosedBlock :
    let c : Components := .ofPairs [(.road, "Elm\tSt "), (.city, "\r")]
    let first : List Text :=
      [Template.firstOpen ++ Template.tag "road", Template.tag "city" ++ ",".toList]
    let second : List Text := [Template.tag "^city" ++ "-\r-1".toList ++ Template.tag "/city"]
    let lines : List Text := [Template.firstOpen ++ "Elm\tSt".toList, "-\r-1"]
    (∀ line ∈ first ++ second, '\n' ∉ line) ∧ (∀ f, ∀ v ∈ c.get? f, '\n' ∉ v)
      ∧ renderLines c (some (first ++ second)) = some lines
      ∧ ∃ text, render c (some (first ++ second)) = some text
        ∧ List.splitOn '\n' text = lines := by
  intro c first second lines
  have hlines : ∀ line ∈ first ++ second, '\n' ∉ line := by decide
  have hvalues : ∀ f, ∀ v ∈ c.get? f, '\n' ∉ v := by
    intro f
    cases f <;> decide +kernel
  obtain ⟨before, behind, hbefore, hbehind, hboth⟩ :=
    (render_splitsBack c).2 first second (by decide) (by decide)
  obtain ⟨shown, text, hshown, htext, -, hsplit, -⟩ :=
    (render_splitsBack c).1 (first ++ second) (by decide) hlines hvalues
  have hfirst : renderLines c (some first) = some [Template.firstOpen ++ "Elm\tSt".toList] := by
    decide +kernel
  have hsecond : renderLines c (some second) = some ["-\r-1".toList] := by decide +kernel
  obtain rfl := Option.some.inj (hbefore.symm.trans hfirst)
  obtain rfl := Option.some.inj (hbehind.symm.trans hsecond)
  obtain rfl := Option.some.inj (hshown.symm.trans hboth)
  exact ⟨hlines, hvalues, hboth, text, htext, hsplit (List.cons_ne_nil _ _)⟩

end Gazetteer.Address
