/-
# Gazetteer.Proofs.Json.Types -- every type that is written can be read back

Twelve types are written as JSON: the dataset with its records and counts, addresses, phone numbers
and amounts. Each has a form, and forms are read back from whatever they write as long as the keys
of their records and their labels differ and their counts fit into sixty-four bits. The first is
decided once for each form; the second can fail only for the counts of a dataset and for the number
of fraction digits.
-/
import Gazetteer.Address.Form
import Gazetteer.Dataset.Form
import Gazetteer.Phone.Form
import Gazetteer.Proofs.Json.RoundTrip

namespace Gazetteer

open scoped Powers

namespace Json

variable {α : Type} {f : Form α} {a : α}

/-! ## Layouts -/

/-- The texts of a value: compact, over lines, and over lines with a line end behind, which is how
a command prints it. -/
def layouts (v : Json) : List Text := [v.compact, v.pretty 0, v.pretty 0 ++ ['\n']]

/-- A value is read from all of its layouts. -/
def Form.ReadsBack (f : Form α) (a : α) : Prop :=
  ∀ t ∈ (f.toJson a).layouts, f.decode (.ofBytes (Text.utf8 t)) = .ok a

theorem Form.readsBack_of_fits (hsound : f.shape.isSound = true)
    (hfits : f.shape.Fits (f.toData a)) : f.ReadsBack a := by
  -- No white space stands in front of a layout, and at most the line end stands behind.
  have hread : ∀ {t w : Text}, Spells (f.toJson a) t → IsSpace w →
      f.decode (.ofBytes (Text.utf8 (t ++ w))) = .ok a := by
    intro t w ht hw
    have h := Form.decode_toJson hsound hfits ht isSpace_nil hw
    rwa [List.nil_append] at h
  have hline : IsSpace ['\n'] := by
    intro c hc
    rw [List.mem_singleton.mp hc]
    decide
  intro t ht
  simp only [layouts, List.mem_cons, List.not_mem_nil, or_false] at ht
  rcases ht with rfl | rfl | rfl
  · have h := hread (spells_compact (f.toJson a)) isSpace_nil
    rwa [List.append_nil] at h
  · have h := hread (spells_pretty (f.toJson a) 0) isSpace_nil
    rwa [List.append_nil] at h
  · exact hread (spells_pretty (f.toJson a) 0) hline

/-- Where there is no count, every value is read back. -/
theorem Form.readsBack_of_isCountFree (hsound : f.shape.isSound = true)
    (hfree : f.shape.isCountFree = true) (a : α) : f.ReadsBack a :=
  readsBack_of_fits hsound (Shape.fits_of_isCountFree _ hfree _)

end Json

/-! ## The types with counts -/

theorem Dataset.Stats.readsBack {s : Dataset.Stats} (hcountries : s.countries < 2 ^ (64 : Nat))
    (hlanguages : s.languages < 2 ^ (64 : Nat)) (hgroups : s.groups < 2 ^ (64 : Nat)) :
    Dataset.Stats.form.ReadsBack s :=
  Json.Form.readsBack_of_fits (by decide) ⟨hcountries, hlanguages, hgroups, trivial⟩

theorem Currency.Format.readsBack {f : Currency.Format}
    (h : ∀ n ∈ f.fractionDigits, n < 2 ^ (64 : Nat)) : Currency.Format.form.ReadsBack f := by
  refine Json.Form.readsBack_of_fits (by decide) ⟨?_, trivial⟩
  intro n hn
  have hdigits : f.fractionDigits = some n := by
    rw [← hn]
    exact (congrFun Option.map_id f.fractionDigits).symm
  exact h n hdigits

/-! ## All types -/

/-- **Decoding undoes encoding for every type that is written.** Whatever its texts are, and as long
as its counts fit into sixty-four bits, a value is read back from each of its layouts. -/
theorem readsBack_everyType :
    (∀ c : Country, Country.form.ReadsBack c)
      ∧ (∀ l : Language, Language.form.ReadsBack l)
      ∧ (∀ g : Group, Group.form.ReadsBack g)
      ∧ (∀ k : GroupKind, GroupKind.form.ReadsBack k)
      ∧ (∀ d : Dataset, Dataset.form.ReadsBack d)
      ∧ (∀ s : Dataset.Stats, s.countries < 2 ^ (64 : Nat) → s.languages < 2 ^ (64 : Nat) →
        s.groups < 2 ^ (64 : Nat) → Dataset.Stats.form.ReadsBack s)
      ∧ (∀ c : Address.Components, Address.Components.form.ReadsBack c)
      ∧ (∀ f : Address.Field, Address.Field.form.ReadsBack f)
      ∧ (∀ s : Phone.Status, Phone.Status.form.ReadsBack s)
      ∧ (∀ n : Phone.Number, Phone.Number.form.ReadsBack n)
      ∧ (∀ f : Currency.Format, (∀ n ∈ f.fractionDigits, n < 2 ^ (64 : Nat)) →
        Currency.Format.form.ReadsBack f)
      ∧ (∀ p : Currency.Part, Currency.Part.form.ReadsBack p) := by
  refine ⟨?country, ?language, ?group, ?kind, ?dataset, ?stats, ?components, ?field, ?status,
    ?number, ?format, ?part⟩
  case stats => exact fun s => Dataset.Stats.readsBack
  case format => exact fun f => Currency.Format.readsBack
  all_goals exact Json.Form.readsBack_of_isCountFree (by decide) (by decide)

/-- Counts up to the last that fits, and an address that holds a quote, a control and a character
outside the first plane. -/
theorem readsBack_everyType_extremes :
    let stats : Dataset.Stats := ⟨2 ^ (64 : Nat) - 1, 0, 7⟩
    let format : Currency.Format := ⟨some (2 ^ (64 : Nat) - 1)⟩
    let components : Address.Components := ⟨fun f => if f = .road then some "\"\x01😀\\" else none⟩
    (stats.countries < 2 ^ (64 : Nat) ∧ stats.languages < 2 ^ (64 : Nat)
        ∧ stats.groups < 2 ^ (64 : Nat))
      ∧ (∀ n ∈ format.fractionDigits, n < 2 ^ (64 : Nat))
      ∧ Dataset.Stats.form.ReadsBack stats
      ∧ Currency.Format.form.ReadsBack format
      ∧ Address.Components.form.ReadsBack components := by
  intro stats format components
  have hstats : stats.countries < 2 ^ (64 : Nat) ∧ stats.languages < 2 ^ (64 : Nat)
      ∧ stats.groups < 2 ^ (64 : Nat) := by
    decide
  have hformat : ∀ n ∈ format.fractionDigits, n < 2 ^ (64 : Nat) := by
    intro n hn
    obtain rfl := Option.some.inj hn
    decide
  obtain ⟨-, -, -, -, -, readStats, readComponents, -, -, -, readFormat, -⟩ := readsBack_everyType
  exact ⟨hstats, hformat, readStats stats hstats.1 hstats.2.1 hstats.2.2, readFormat format hformat,
    readComponents components⟩

end Gazetteer
