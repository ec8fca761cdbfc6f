/-
# Gazetteer.Proofs.Address.TidyLines -- rendered lines are tidy and hold all that is left

Behind the three stages the white space of a line is tidied, and the line is dropped if it holds no
letter, no digit and no character outside ASCII. Most of the white-space characters are outside
ASCII, so they are themselves what keeps a line when they stand alone between separators. What is
rendered is in its tidy form: it starts and ends with something, and apart from white space it is
what the stages left, in the same order.
-/
import Gazetteer.Proofs.Address.BlankComponents
import Gazetteer.Proofs.Text.Tidy

namespace Gazetteer.Address

open Template (Resolver renderLine resolveBlocks substitute)
open Text (TidyForm evened)

/-! ## Cleaning a line up -/

variable {t : Text}

theorem hasContent_eq_true_iff : Template.hasContent t = true ↔ ∃ c ∈ t, ¬ IsSeparator c := by
  rw [← Bool.not_eq_false, hasContent_eq_false_iff]
  push Not
  rfl

theorem cleanUp_eq_tidy (h : ∃ c ∈ Text.tidy t, ¬ IsSeparator c) :
    Template.cleanUp t = Text.tidy t := by
  unfold Template.cleanUp
  exact if_pos (hasContent_eq_true_iff.mpr h)

theorem cleanUp_eq_nil_iff : Template.cleanUp t = [] ↔ ∀ c ∈ Text.tidy t, IsSeparator c := by
  constructor
  · intro hnil
    by_contra hword
    push Not at hword
    obtain ⟨c, hc, hword⟩ := hword
    rw [cleanUp_eq_tidy ⟨c, hc, hword⟩] at hnil
    rw [hnil] at hc
    exact absurd hc List.not_mem_nil
  · intro hall
    unfold Template.cleanUp
    exact if_neg (by simp [hasContent_eq_false_iff.mpr hall])

/-- A line that is kept is the tidy form of what the stages left. -/
theorem tidyForm_cleanUp (h : Template.cleanUp t ≠ []) :
    TidyForm t (Template.cleanUp t) ∧ ∃ c ∈ Template.cleanUp t, ¬ IsSeparator c := by
  have hword : ∃ c ∈ Text.tidy t, ¬ IsSeparator c := by
    rw [ne_eq, cleanUp_eq_nil_iff] at h
    push Not at h
    exact h
  rw [cleanUp_eq_tidy hword]
  refine ⟨?_, hword⟩
  rw [Text.tidy_eq_trim_evened]
  exact Text.tidyForm_trim_evened t

/-! ## The lines of an address -/

/-- The lines of an address are rendered lines of the template, and none of them is empty. -/
theorem exists_line_of_mem_renderLines {c : Components} {template lines : List Text}
    (h : renderLines c (some template) = some lines) {shown : Text} (hshown : shown ∈ lines) :
    shown ≠ [] ∧ ∃ line ∈ template, renderLine c.value line = shown := by
  cases template with
  | nil => exact absurd h (by simp [renderLines])
  | cons line rest =>
    obtain rfl := Option.some.inj h
    obtain ⟨hmem, hne⟩ := List.mem_filter.mp hshown
    exact ⟨by simpa using hne, List.mem_map.mp hmem⟩

/-- **Rendered lines are in normal form and lose no content.** Every longest run of two or more
white-space characters that the stages leave is replaced by one space, and the ends are trimmed. If
that holds separators only, the line is empty; else it is the line, which starts and ends with no
white space, has no white space next to white space, lost nothing else, kept each white-space
character that stood alone inside, and is as clean as it gets. So are all lines of an address. -/
theorem renderLine_tidy :
    (∀ (resolve : Resolver) (line : Text),
      let left := substitute resolve (resolveBlocks resolve line)
      let tidied := Text.trim (evened left)
      (renderLine resolve line = [] ↔ ∀ c ∈ tidied, IsSeparator c)
        ∧ ((∃ c ∈ tidied, ¬ IsSeparator c) → renderLine resolve line = tidied ∧ tidied ≠ [])
        ∧ TidyForm left tidied)
    ∧ ∀ (c : Components) (template lines : List Text),
      renderLines c (some template) = some lines → ∀ shown ∈ lines,
        shown ≠ [] ∧ (∃ x ∈ shown, ¬ IsSeparator x)
          ∧ ∃ line ∈ template,
            TidyForm (substitute c.value (resolveBlocks c.value line)) shown := by
  constructor
  · intro resolve line left tidied
    have htidied : Text.tidy left = tidied := Text.tidy_eq_trim_evened left
    refine ⟨?_, ?_, Text.tidyForm_trim_evened left⟩
    · rw [← htidied]
      exact cleanUp_eq_nil_iff
    · intro hword
      refine ⟨?_, ?_⟩
      · rw [← htidied] at hword ⊢
        exact cleanUp_eq_tidy hword
      · obtain ⟨c, hc, -⟩ := hword
        exact List.ne_nil_of_mem hc
  · intro c template lines h shown hshown
    obtain ⟨hne, line, hline, rfl⟩ := exists_line_of_mem_renderLines h hshown
    obtain ⟨hform, hword⟩ := tidyForm_cleanUp hne
    exact ⟨hne, hword, line, hline, hform⟩

/-- Runs that end in an empty value, a white-space character that stands alone, a line that a single
white-space character keeps, and one of separators. -/
theorem renderLine_tidy_mixedWhiteSpace :
    let c : Components := .ofPairs [(.road, "\u3000Elm\t"), (.city, " ")]
    let road := Template.tag "road"
    let city := Template.tag "city"
    let line : Text := (["\t", road, "\u3000", city, "\n,\u00A0-", city, "  "] : List Text).flatten
    let template : List Text := [line, ",\u3000.", city ++ ", ".toList]
    let lines : List Text := ["Elm ,\u00A0-", ",\u3000."]
    renderLine c.value line = "Elm ,\u00A0-".toList
      ∧ renderLine c.value (city ++ ", ".toList) = []
      ∧ renderLines c (some template) = some lines
      ∧ ∃ line ∈ template,
        TidyForm (substitute c.value (resolveBlocks c.value line)) ",\u3000." := by
  intro c road city line template lines
  have hlines : renderLines c (some template) = some lines := by decide +kernel
  obtain ⟨-, hkept, -⟩ := renderLine_tidy.1 c.value line
  obtain ⟨hempty, -, -⟩ := renderLine_tidy.1 c.value (city ++ ", ".toList)
  obtain ⟨-, -, hform⟩ := renderLine_tidy.2 c template lines hlines ",\u3000." (by decide)
  refine ⟨(hkept ⟨'E', by decide +kernel, by decide⟩).1.trans ?_, hempty.mpr ?_, hlines, hform⟩
  · decide +kernel
  · decide +kernel

end Gazetteer.Address
