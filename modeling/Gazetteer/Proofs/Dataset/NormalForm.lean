/-
# Gazetteer.Proofs.Dataset.NormalForm -- what loading makes of records

Loading brings every record into a normal form: codes are trimmed and hold no lower-case ASCII
letter, a text that may be absent is never blank, and a template has lines, all of them trimmed. The
normal form of a record is in normal form, and a record that is in normal form is its own, so that
loading what was loaded before changes nothing.
-/
import Gazetteer.Dataset.Document
import Gazetteer.Proofs.Text.Blank
import Gazetteer.Proofs.Text.Chars

namespace Gazetteer

/-! ## Codes, optional texts and templates -/

/-- A trimmed text without lower-case ASCII letters. -/
structure IsCode (t : Text) : Prop where
  trimmed : Text.Trimmed t
  notLower : ∀ c ∈ t, c.isLower = false

theorem isCode_normalCode (t : Text) : IsCode (normalCode t) := by
  obtain ⟨hfront, hback⟩ := Text.trimmed_trim t
  refine ⟨⟨?_, ?_⟩, ?_⟩
  -- Raising a letter makes no white space, so the ends stay as trimming has left them.
  · intro c hc
    rw [normalCode, Text.upper, List.head?_map] at hc
    obtain ⟨d, hd, rfl⟩ := Option.map_eq_some_iff.mp hc
    rw [Text.isBlankChar_toUpper]
    exact hfront d hd
  · intro c hc
    rw [normalCode, Text.upper, List.getLast?_map] at hc
    obtain ⟨d, hd, rfl⟩ := Option.map_eq_some_iff.mp hc
    rw [Text.isBlankChar_toUpper]
    exact hback d hd
  · intro c hc
    obtain ⟨d, -, rfl⟩ := List.mem_map.mp hc
    exact Text.isLower_toUpper d

theorem IsCode.normalCode_eq {t : Text} (h : IsCode t) : normalCode t = t := by
  rw [normalCode, h.trimmed.trim, Text.upper]
  have hraised : ∀ c ∈ t, c.toUpper = id c :=
    fun c hc => Text.toUpper_of_not_isLower (h.notLower c hc)
  rw [List.map_congr_left hraised, List.map_id]

/-- A code is compared with a text in upper case. -/
theorem IsCode.sameLetters_iff {t s : Text} (h : IsCode t) :
    Text.sameLetters t s = true ↔ t = Text.upper s := by
  have hraised : Text.upper t = t := by
    have hnormal := h.normalCode_eq
    rwa [normalCode, h.trimmed.trim] at hnormal
  rw [Text.sameLetters_iff, hraised]

/-- The text is absent, or some character of it is no white space. -/
def HasContent (t : Option Text) : Prop := ∀ s ∈ t, ∃ c ∈ s, Text.isBlankChar c = false

theorem isBlank_eq_false_iff {s : Text} :
    Text.isBlank s = false ↔ ∃ c ∈ s, Text.isBlankChar c = false := by
  simp [Text.isBlank]

theorem hasContent_nonBlank? (t : Option Text) : HasContent (Text.nonBlank? t) := by
  intro s hs
  obtain ⟨-, hblank⟩ := Option.filter_eq_some_iff.mp hs
  exact isBlank_eq_false_iff.mp (by simpa using hblank)

theorem HasContent.nonBlank?_eq {t : Option Text} (h : HasContent t) : Text.nonBlank? t = t := by
  cases t with
  | none => rfl
  | some s =>
    have hblank : Text.isBlank s = false := isBlank_eq_false_iff.mpr (h s rfl)
    exact Option.filter_some_pos (by simp [hblank])

/-- The template is absent, or it has lines and all of them are trimmed. -/
def IsTemplate (lines : Option (List Text)) : Prop :=
  ∀ ls ∈ lines, ls ≠ [] ∧ ∀ l ∈ ls, Text.Trimmed l

theorem isTemplate_normalTemplate (lines : Option (List Text)) :
    IsTemplate (normalTemplate lines) := by
  intro ls hls
  obtain ⟨written, hwritten, rfl⟩ := Option.map_eq_some_iff.mp hls
  obtain ⟨-, hne⟩ := Option.filter_eq_some_iff.mp hwritten
  refine ⟨by simpa using hne, fun l hl => ?_⟩
  obtain ⟨t, -, rfl⟩ := List.mem_map.mp hl
  exact Text.trimmed_trim t

theorem IsTemplate.normalTemplate_eq {lines : Option (List Text)} (h : IsTemplate lines) :
    normalTemplate lines = lines := by
  cases lines with
  | none => rfl
  | some ls =>
    obtain ⟨hne, htrimmed⟩ := h ls rfl
    have hsame : ∀ l ∈ ls, Text.trim l = id l := fun l hl => (htrimmed l hl).trim
    rw [normalTemplate, Option.filter_some_pos (by simpa using hne), Option.map_some,
      List.map_congr_left hsame, List.map_id]

/-! ## Records -/

/-- The texts of a country that may be absent. -/
def Country.optionalTexts (c : Country) : List (Option Text) :=
  [c.officialName, c.currency, c.currencySymbol, c.phoneCountryCode, c.phoneRegexp, c.phoneFormat,
    c.postalCodeRegexp, c.postalCodeFormat, c.tld, c.flag]

/-- A country in normal form. -/
structure Country.IsNormal (c : Country) : Prop where
  alpha2 : IsCode c.alpha2
  alpha3 : IsCode c.alpha3
  optionalTexts : ∀ t ∈ c.optionalTexts, HasContent t
  addressFormat : IsTemplate c.addressFormat

theorem Country.isNormal_normal (c : Country) : c.normal.IsNormal where
  alpha2 := isCode_normalCode c.alpha2
  alpha3 := isCode_normalCode c.alpha3
  optionalTexts := by
    have hmap : c.normal.optionalTexts = c.optionalTexts.map Text.nonBlank? := rfl
    intro t ht
    rw [hmap] at ht
    obtain ⟨s, -, rfl⟩ := List.mem_map.mp ht
    exact hasContent_nonBlank? s
  addressFormat := isTemplate_normalTemplate c.addressFormat

/-- A country in normal form is its own normal form. -/
theorem Country.IsNormal.normal_eq {c : Country} (h : c.IsNormal) : c.normal = c := by
  have htexts : ∀ t ∈ c.optionalTexts, Text.nonBlank? t = t :=
    fun t ht => (h.optionalTexts t ht).nonBlank?_eq
  simp only [Country.optionalTexts, List.forall_mem_cons] at htexts
  obtain ⟨h₁, h₂, h₃, h₄, h₅, h₆, h₇, h₈, h₉, h₁₀, -⟩ := htexts
  rw [normal, h.alpha2.normalCode_eq, h.alpha3.normalCode_eq, h₁, h₂, h₃, h₄, h₅, h₆, h₇, h₈, h₉,
    h₁₀, h.addressFormat.normalTemplate_eq]

/-! ## Datasets -/

/-- A dataset in normal form: it has a country, and its records are in normal form. -/
structure Dataset.IsNormal (d : Dataset) : Prop where
  countries_ne_nil : d.countries ≠ []
  countries : ∀ c ∈ d.countries, c.IsNormal
  languages : ∀ l ∈ d.languages, HasContent l.script
  groups : ∀ g ∈ d.groups, HasContent g.description

/-- A document comes to a dataset in normal form. -/
theorem Document.isNormal_of_toDataset? {d : Document} {filter : Document.Filter} {db : Dataset}
    (h : d.toDataset? filter = some db) : db.IsNormal := by
  unfold Document.toDataset? at h
  dsimp only at h
  split at h
  · exact absurd h (by simp)
  · rename_i hne
    obtain rfl := Option.some.inj h
    refine ⟨by simpa using hne, fun c hc => ?_, fun l hl => ?_, fun g hg => ?_⟩
    · obtain ⟨c, -, rfl⟩ := List.mem_map.mp hc
      exact c.isNormal_normal
    · obtain ⟨l, -, rfl⟩ := List.mem_map.mp hl
      exact hasContent_nonBlank? l.script
    · obtain ⟨g, -, rfl⟩ := List.mem_map.mp hg
      exact hasContent_nonBlank? g.description

end Gazetteer
