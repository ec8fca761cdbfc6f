/-
# Gazetteer.Proofs.Dataset.Filtering -- loading some of the countries

A filter is compared with the codes as a document has them, and look-ups see the codes in normal
form. That comes to the same: what is loaded under a filter is the dataset that is loaded without
one, less the countries whose code in normal form is none of the listed codes in normal form. It
follows that only the set of these matters, and that a look-up finds what it finds without a filter
as long as it asks for a listed code.
-/
import Mathlib.Data.List.Find
import Gazetteer.Dataset.Lookup
import Gazetteer.Proofs.Dataset.Reload

namespace Gazetteer

variable {codes : List Text}

/-! ## What a filter keeps -/

/-- A filter lists a code if both have the same normal form. -/
theorem Document.Filter.keeps_iff {alpha2 : Text} :
    Filter.keeps codes alpha2 = true ↔ normalCode alpha2 ∈ codes.map normalCode := by
  rw [Filter.keeps, List.any_eq_true, List.mem_map]
  constructor
  · rintro ⟨code, hcode, hsame⟩
    exact ⟨code, hcode, (Text.sameLetters_iff.mp hsame).symm⟩
  · rintro ⟨code, hcode, hnormal⟩
    exact ⟨code, hcode, Text.sameLetters_iff.mpr hnormal.symm⟩

namespace Dataset

/-- The dataset with only the countries whose code is listed. -/
def restrict (d : Dataset) (codes : List Text) : Dataset :=
  { d with countries := d.countries.filter (fun c => (codes.map normalCode).contains c.alpha2) }

theorem countries_restrict_ne_nil_iff {d : Dataset} :
    (d.restrict codes).countries ≠ [] ↔ ∃ c ∈ d.countries, c.alpha2 ∈ codes.map normalCode := by
  simp only [restrict, ne_eq, List.filter_eq_nil_iff, List.contains_iff_mem, not_forall, not_not,
    exists_prop]

/-- Only the set of the listed codes in normal form matters. -/
theorem restrict_congr {d : Dataset} {other : List Text}
    (h : ∀ code, code ∈ other.map normalCode ↔ code ∈ codes.map normalCode) :
    d.restrict other = d.restrict codes := by
  simp only [restrict, List.contains_eq_mem, h]

/-- Restricting a document and bringing it into normal form can be done in either order. -/
theorem normal_restrict (document : Document) :
    (document.restrict (some codes)).normal = document.normal.restrict codes := by
  have hkeeps : (fun c : Country => (codes.map normalCode).contains c.alpha2) ∘ Country.normal
      = fun c => Document.Filter.keeps codes c.alpha2 := by
    funext c
    rw [Bool.eq_iff_iff, Document.Filter.keeps_iff]
    exact List.contains_iff_mem
  simp only [Document.restrict, Document.normal, restrict, List.filter_map, hkeeps]

/-! ## Loading a document -/

variable {document : Document} {d : Dataset}

/-- Without a filter a document comes to its normal form, unless that has no country. -/
theorem ofDocument_none_eq_ok_iff :
    ofDocument document none = .ok d ↔ document.normal.countries ≠ [] ∧ document.normal = d := by
  rw [ofDocument, Document.toDataset?, Document.restrict]
  cases document.normal.countries <;> simp

/-- Under a filter it comes to the restricted normal form, unless that has no country. -/
theorem ofDocument_some_eq_ok_iff :
    ofDocument document (some codes) = .ok d
      ↔ (document.normal.restrict codes).countries ≠ [] ∧ document.normal.restrict codes = d := by
  rw [ofDocument, Document.toDataset?, normal_restrict]
  cases (document.normal.restrict codes).countries <;> simp

theorem ofDocument_some_eq_error_iff {e : LoadError} :
    ofDocument document (some codes) = .error e
      ↔ (document.normal.restrict codes).countries = [] ∧ e = .noCountries := by
  rw [ofDocument, Document.toDataset?, normal_restrict]
  cases (document.normal.restrict codes).countries <;> simp [eq_comm]

/-- Without any country nothing is left under a filter either. -/
theorem ofDocument_some_of_error {e : LoadError} (h : ofDocument document none = .error e) :
    ofDocument document (some codes) = .error e := by
  rw [ofDocument, Document.toDataset?, Document.restrict] at h
  split at h
  · exact absurd h (by simp)
  · rename_i hnone
    obtain rfl := Except.error.inj h
    have hnil : document.normal.countries = [] := by simpa using hnone
    refine ofDocument_some_eq_error_iff.mpr ⟨?_, rfl⟩
    rw [restrict, hnil, List.filter_nil]

/-- Where a dataset is loaded from. -/
inductive Source where
  | stream (s : Storage.Stream)
  /-- What was opened under a path. -/
  | opened (path : Text) (o : Except Storage.OpenFailure Storage.Opened)
  /-- The document that comes with the library. -/
  | embedded

/-- Loads what a source holds. -/
def Source.load : Source → Document.Filter → Except LoadError Dataset
  | .stream s => ofStream s
  | .opened path o => ofOpened path o
  | .embedded => ofEmbedded

theorem ofStream_cases (s : Storage.Stream) :
    (∃ document, ∀ filter, ofStream s filter = ofDocument document filter)
      ∨ ∃ e, ∀ filter, ofStream s filter = .error e := by
  unfold ofStream
  cases Document.form.decode s with
  | ok document => exact .inl ⟨document, fun _ => rfl⟩
  | error fault => exact .inr ⟨.unreadable fault, fun _ => rfl⟩

/-- A source holds a document or fails, whatever the filter. -/
theorem Source.load_cases (source : Source) :
    (∃ document, ∀ filter, source.load filter = ofDocument document filter)
      ∨ ∃ e, ∀ filter, source.load filter = .error e := by
  cases source with
  | stream s => exact ofStream_cases s
  | opened path o =>
    cases o with
    | ok o => exact ofStream_cases (o.stream path)
    | error reason => exact .inr ⟨.notFound path reason, fun _ => rfl⟩
  | embedded => exact .inl ⟨Embedded.document, fun _ => rfl⟩

/-! ## Look-ups under a filter -/

/-- What can be looked up by code in a restricted dataset: what could be before, if its code is
listed. -/
theorem IsNormal.alpha2?_restrict {d : Dataset} (h : d.IsNormal) (s : Text) :
    (d.restrict codes).alpha2? s
      = if Text.upper s ∈ codes.map normalCode then d.alpha2? s else none := by
  -- The code of a country is in upper case already.
  have hfits : ∀ c ∈ d.countries, Text.sameLetters c.alpha2 s = true → c.alpha2 = Text.upper s :=
    fun c hc hsame => (h.countries c hc).alpha2.sameLetters_iff.mp hsame
  rw [alpha2?, restrict, List.find?_filter]
  split
  · rename_i hlisted
    refine List.find?_congr fun c hc => ?_
    rw [Bool.eq_iff_iff, decide_eq_true_iff, and_iff_right_iff_imp]
    intro hsame
    rw [hfits c hc hsame]
    exact List.contains_iff_mem.mpr hlisted
  · rename_i hunlisted
    refine List.find?_eq_none.mpr fun c hc hboth => ?_
    obtain ⟨hcode, hsame⟩ := of_decide_eq_true hboth
    rw [hfits c hc hsame] at hcode
    exact hunlisted (List.contains_iff_mem.mp hcode)

/-! ## Loading under a filter -/

/-- **Filtering commutes with loading and look-up.** From a source that gives a dataset without a
filter, a filter gives the same dataset with only the listed countries, or fails for want of
countries if no code is listed. Order, repetition, case and padding of the filter do not matter, and
a look-up finds what it finds in the whole dataset if it asks for a listed code, and else nothing. A
source that fails without a filter fails in the same way with any. -/
theorem load_filter (source : Source) (codes : List Text) :
    (∀ d, source.load none = .ok d →
      ((∃ d', source.load (some codes) = .ok d')
          ↔ ∃ c ∈ d.countries, c.alpha2 ∈ codes.map normalCode)
        ∧ ((¬ ∃ c ∈ d.countries, c.alpha2 ∈ codes.map normalCode) →
          source.load (some codes) = .error .noCountries)
        ∧ (∀ d', source.load (some codes) = .ok d' →
          d'.countries = d.countries.filter (fun c => c.alpha2 ∈ codes.map normalCode)
            ∧ d'.languages = d.languages ∧ d'.groups = d.groups
            ∧ ∀ s, d'.alpha2? s
              = if Text.upper s ∈ codes.map normalCode then d.alpha2? s else none)
        ∧ ∀ other : List Text,
          (∀ code, code ∈ other.map normalCode ↔ code ∈ codes.map normalCode) →
          source.load (some other) = source.load (some codes))
      ∧ ∀ e, source.load none = .error e → source.load (some codes) = .error e := by
  rcases source.load_cases with ⟨document, hload⟩ | ⟨e, hload⟩
  · simp only [hload]
    refine ⟨fun d hd => ?_, fun e => ofDocument_some_of_error⟩
    have hnormal : d.IsNormal := isNormal_of_ofDocument hd
    obtain ⟨-, rfl⟩ := ofDocument_none_eq_ok_iff.mp hd
    refine ⟨?_, fun hunlisted => ?_, fun d' hd' => ?_, fun other hother => ?_⟩
    · rw [← countries_restrict_ne_nil_iff]
      constructor
      · rintro ⟨d', hd'⟩
        exact (ofDocument_some_eq_ok_iff.mp hd').1
      · intro hsome
        exact ⟨_, ofDocument_some_eq_ok_iff.mpr ⟨hsome, rfl⟩⟩
    · rw [← countries_restrict_ne_nil_iff, not_not] at hunlisted
      exact ofDocument_some_eq_error_iff.mpr ⟨hunlisted, rfl⟩
    · obtain ⟨-, rfl⟩ := ofDocument_some_eq_ok_iff.mp hd'
      refine ⟨?_, rfl, rfl, hnormal.alpha2?_restrict⟩
      simp only [restrict, List.contains_eq_mem]
    · rw [ofDocument, ofDocument, Document.toDataset?, Document.toDataset?, normal_restrict,
        normal_restrict, restrict_congr hother]
  · simp only [hload]
    exact ⟨fun d hd => absurd hd (by simp), fun e he => he⟩

/-- The embedded dataset under a filter in disorder, and under one that lists none of it. -/
theorem load_filter_embedded :
    let codes : List Text := [" us ", "Jp", "US", "ZZ"]
    Source.embedded.load none = .ok embedded
      ∧ (∃ d, Source.embedded.load (some codes) = .ok d
        ∧ d.countries.map Country.alpha2 = (["JP", "US"] : List Text)
        ∧ d.alpha2? "jp" = embedded.alpha2? "jp" ∧ d.alpha2? "de" = none)
      ∧ Source.embedded.load (some ["ZZ"]) = .error .noCountries := by
  intro codes
  have hload : Source.embedded.load none = .ok embedded := rfl
  obtain ⟨hsome, -, hfiltered, -⟩ := (load_filter .embedded codes).1 embedded hload
  obtain ⟨-, hnone, -⟩ := (load_filter .embedded ["ZZ"]).1 embedded hload
  obtain ⟨d, hd⟩ := hsome.mpr (by decide)
  obtain ⟨hcountries, -, -, hfind⟩ := hfiltered d hd
  refine ⟨hload, ⟨d, hd, ?_, ?_, ?_⟩, hnone (by decide)⟩
  · rw [hcountries]
    decide
  · rw [hfind, if_pos (by decide)]
  · rw [hfind, if_neg (by decide)]

end Dataset

end Gazetteer
