/-
# Gazetteer.Proofs.Dataset.Codes -- finding a country by its code

A code is stored in normal form, trimmed and in upper case, and a query is trimmed and compared
without regard to the case of ASCII letters. That comes to comparing the stored code with the normal
form of the query. So what is found is the first country in the order of the dataset with this
alpha-2 code, and for want of one the first with this alpha-3 code.

Nothing is assumed of the codes. They may be blank or hold any character, several countries may
share one, and the alpha-3 code of one country may be the alpha-2 code of another, which then stands
in its way.
-/
import Gazetteer.Proofs.Dataset.Filtering

namespace Gazetteer

/-! ## Ways to write a code -/

/-- The text is the other one but for the case of ASCII letters and white space around it. -/
def Text.IsVariant (t s : Text) : Prop :=
  ∃ front u back : Text, isBlank front = true ∧ isBlank back = true ∧ upper u = upper s
    ∧ t = front ++ (u ++ back)

/-- Letters may be raised before the ends are trimmed or after. -/
theorem Text.trim_upper (t : Text) : trim (upper t) = upper (trim t) := by
  have hblank : isBlankChar ∘ Char.toUpper = isBlankChar := funext isBlankChar_toUpper
  unfold trim trimEnd trimStart upper
  rw [List.dropWhile_map, hblank, ← List.map_reverse, List.dropWhile_map, hblank,
    ← List.map_reverse]

theorem Text.IsVariant.normalCode_eq {t s : Text} (h : t.IsVariant s) :
    normalCode t = normalCode s := by
  obtain ⟨front, u, back, hfront, hback, hcase, rfl⟩ := h
  unfold normalCode
  rw [trim_between hfront hback, ← trim_upper, hcase, trim_upper]

namespace Dataset

/-! ## The first with a code -/

/-- The country is the first of some countries with a code. -/
def IsFirst (code : Country → Text) (t : Text) (countries : List Country) (c : Country) : Prop :=
  ∃ before after, countries = before ++ c :: after ∧ (∀ b ∈ before, code b ≠ t) ∧ code c = t

variable {code : Country → Text} {countries : List Country} {c : Country}

theorem find?_eq_some_iff_isFirst (h : ∀ c ∈ countries, IsCode (code c)) (s : Text) :
    countries.find? (fun c => Text.sameLetters (code c) s) = some c
      ↔ IsFirst code (Text.upper s) countries c := by
  rw [List.find?_eq_some_iff_append]
  constructor
  · rintro ⟨hc, before, after, rfl, hbefore⟩
    refine ⟨before, after, rfl, fun b hb heq => ?_, ?_⟩
    · have hsame : Text.sameLetters (code b) s = true :=
        (h b (List.mem_append_left _ hb)).sameLetters_iff.mpr heq
      have hother := hbefore b hb
      rw [hsame] at hother
      exact absurd hother (by simp)
    · exact (h c (by simp)).sameLetters_iff.mp hc
  · rintro ⟨before, after, rfl, hbefore, hc⟩
    refine ⟨(h c (by simp)).sameLetters_iff.mpr hc, before, after, rfl, fun b hb => ?_⟩
    rw [Bool.not_eq_true', Bool.eq_false_iff]
    intro hsame
    exact hbefore b hb ((h b (List.mem_append_left _ hb)).sameLetters_iff.mp hsame)

theorem find?_eq_none_iff_forall (h : ∀ c ∈ countries, IsCode (code c)) (s : Text) :
    countries.find? (fun c => Text.sameLetters (code c) s) = none
      ↔ ∀ c ∈ countries, code c ≠ Text.upper s := by
  rw [List.find?_eq_none]
  refine forall₂_congr fun c hc => ?_
  rw [(h c hc).sameLetters_iff]

variable {d : Dataset}

/-- An alpha-2 code is looked for before all alpha-3 codes. -/
theorem IsNormal.country?_eq_some_iff (h : d.IsNormal) (s : Text) :
    d.country? s = some c
      ↔ IsFirst Country.alpha2 (normalCode s) d.countries c
        ∨ (∀ b ∈ d.countries, b.alpha2 ≠ normalCode s)
          ∧ IsFirst Country.alpha3 (normalCode s) d.countries c := by
  have halpha2 : ∀ c ∈ d.countries, IsCode c.alpha2 := fun c hc => (h.countries c hc).alpha2
  have halpha3 : ∀ c ∈ d.countries, IsCode c.alpha3 := fun c hc => (h.countries c hc).alpha3
  unfold country? alpha2? alpha3?
  rw [Option.orElse_eq_orElse, Option.orElse_eq_or, Option.or_eq_some_iff,
    find?_eq_some_iff_isFirst halpha2, find?_eq_none_iff_forall halpha2,
    find?_eq_some_iff_isFirst halpha3, ← normalCode]

theorem IsNormal.country?_eq_none_iff (h : d.IsNormal) (s : Text) :
    d.country? s = none
      ↔ ∀ b ∈ d.countries, b.alpha2 ≠ normalCode s ∧ b.alpha3 ≠ normalCode s := by
  have halpha2 : ∀ c ∈ d.countries, IsCode c.alpha2 := fun c hc => (h.countries c hc).alpha2
  have halpha3 : ∀ c ∈ d.countries, IsCode c.alpha3 := fun c hc => (h.countries c hc).alpha3
  unfold country? alpha2? alpha3?
  rw [Option.orElse_eq_orElse, Option.orElse_eq_or, Option.or_eq_none_iff,
    find?_eq_none_iff_forall halpha2, find?_eq_none_iff_forall halpha3, ← normalCode,
    forall₂_and]

/-- Only the normal form of a query matters. -/
theorem IsNormal.country?_congr (h : d.IsNormal) {s t : Text} (hst : normalCode t = normalCode s) :
    d.country? t = d.country? s := by
  apply Option.ext
  intro c
  rw [h.country?_eq_some_iff, h.country?_eq_some_iff, hst]

theorem IsNormal.country?_alpha2 (h : d.IsNormal) {before after : List Country}
    (hd : d.countries = before ++ c :: after) (hfirst : ∀ b ∈ before, b.alpha2 ≠ c.alpha2)
    {t : Text} (ht : t.IsVariant c.alpha2) : d.country? t = some c := by
  have hcode : IsCode c.alpha2 := (h.countries c (by simp [hd])).alpha2
  rw [h.country?_eq_some_iff, ht.normalCode_eq, hcode.normalCode_eq]
  exact .inl ⟨before, after, hd, hfirst, rfl⟩

theorem IsNormal.country?_alpha3 (h : d.IsNormal) {before after : List Country}
    (hd : d.countries = before ++ c :: after) (hnone : ∀ b ∈ d.countries, b.alpha2 ≠ c.alpha3)
    (hfirst : ∀ b ∈ before, b.alpha3 ≠ c.alpha3) {t : Text} (ht : t.IsVariant c.alpha3) :
    d.country? t = some c := by
  have hcode : IsCode c.alpha3 := (h.countries c (by simp [hd])).alpha3
  rw [h.country?_eq_some_iff, ht.normalCode_eq, hcode.normalCode_eq]
  exact .inr ⟨hnone, before, after, hd, hfirst, rfl⟩

/-! ## In whatever is loaded -/

theorem Source.isNormal_of_load {source : Source} {filter : Document.Filter}
    (h : source.load filter = .ok d) : d.IsNormal := by
  rcases source.load_cases with ⟨document, hload⟩ | ⟨e, hload⟩
  · rw [hload] at h
    exact isNormal_of_ofDocument h
  · rw [hload] at h
    exact absurd h (by simp)

/-- **Code look-up takes the first match, alpha-2 first, and is blind to padding and case.** In a
dataset loaded from any source under any filter, a query finds the first country whose alpha-2 code
is the query, trimmed and raised; for want of one, the first whose alpha-3 code is; else nothing. So
a query and its variants find the same. And a country is found by every variant of its alpha-2 code,
unless an earlier one has that; and of its alpha-3 code, unless an earlier one has that or it is the
alpha-2 code of any. -/
theorem country?_firstMatch (source : Source) (filter : Document.Filter) (d : Dataset)
    (h : source.load filter = .ok d) :
    (∀ s c, d.country? s = some c
      ↔ IsFirst Country.alpha2 (Text.upper (Text.trim s)) d.countries c
        ∨ (∀ b ∈ d.countries, b.alpha2 ≠ Text.upper (Text.trim s))
          ∧ IsFirst Country.alpha3 (Text.upper (Text.trim s)) d.countries c)
      ∧ (∀ s, d.country? s = none ↔ ∀ b ∈ d.countries,
        b.alpha2 ≠ Text.upper (Text.trim s) ∧ b.alpha3 ≠ Text.upper (Text.trim s))
      ∧ (∀ s t : Text, t.IsVariant s → d.country? t = d.country? s)
      ∧ ∀ before c after, d.countries = before ++ c :: after →
        ((∀ b ∈ before, b.alpha2 ≠ c.alpha2) →
          ∀ t : Text, t.IsVariant c.alpha2 → d.country? t = some c)
        ∧ ((∀ b ∈ d.countries, b.alpha2 ≠ c.alpha3) → (∀ b ∈ before, b.alpha3 ≠ c.alpha3) →
          ∀ t : Text, t.IsVariant c.alpha3 → d.country? t = some c) := by
  have hnormal : d.IsNormal := Source.isNormal_of_load h
  refine ⟨fun s c => hnormal.country?_eq_some_iff s, hnormal.country?_eq_none_iff,
    fun s t ht => hnormal.country?_congr ht.normalCode_eq, fun before c after hd => ⟨?_, ?_⟩⟩
  · intro hfirst t ht
    exact hnormal.country?_alpha2 hd hfirst ht
  · intro hnone hfirst t ht
    exact hnormal.country?_alpha3 hd hnone hfirst ht

/-- A code that two countries share, one that is the alpha-3 code of one country and the alpha-2
code of a later one, one outside ASCII, and a blank one. -/
theorem country?_firstMatch_shared :
    let document : Document :=
      { countries := [{ alpha2 := " ch ", alpha3 := "che", name := "first" },
          { alpha2 := "CHE", alpha3 := "étÉ", name := "second" },
          { alpha2 := "Ch", alpha3 := " ", name := "third" }] }
    let d : Dataset := document.normal
    let source : Source := .stream (.ofBytes (Text.utf8 (Document.form.toJson document).compact))
    let found (query : Text) : Option Text := (d.country? query).map Country.name
    source.load none = .ok d
      ∧ found "\tcH " = some "first".toList
      ∧ found "cHe" = some "second".toList
      ∧ found " éTÉ" = some "second".toList ∧ found "ÉtÉ" = none
      ∧ found "\t" = some "third".toList := by
  intro document d source found
  have hload : source.load none = .ok d :=
    ofStream_toJson document (Json.spells_compact _) none
  obtain ⟨-, hnone, -, hfind⟩ := country?_firstMatch source none d hload
  have hfirst : d.country? "\tcH " = some (document.countries[0].normal) :=
    (hfind [] _ _ rfl).1 (by decide) _ ⟨"\t", "cH", " ", by decide, by decide, by decide, rfl⟩
  have hsecond : d.country? "cHe" = some (document.countries[1].normal) :=
    (hfind [_] _ _ rfl).1 (by decide) _ ⟨[], "cHe", [], by decide, by decide, by decide, rfl⟩
  have hforeign : d.country? " éTÉ" = some (document.countries[1].normal) :=
    (hfind [_] _ _ rfl).2 (by decide) (by decide) _
      ⟨" ", "éTÉ", [], by decide, by decide, by decide, rfl⟩
  have hthird : d.country? "\t" = some (document.countries[2].normal) :=
    (hfind [_, _] _ _ rfl).2 (by decide) (by decide) _
      ⟨"\t", [], [], by decide, by decide, by decide, rfl⟩
  have hother : d.country? "ÉtÉ" = none := (hnone "ÉtÉ").mpr (by decide)
  refine ⟨hload, ?_, ?_, ?_, ?_, ?_⟩
  · exact congrArg (Option.map Country.name) hfirst
  · exact congrArg (Option.map Country.name) hsecond
  · exact congrArg (Option.map Country.name) hforeign
  · exact congrArg (Option.map Country.name) hother
  · exact congrArg (Option.map Country.name) hthird

end Dataset

end Gazetteer
