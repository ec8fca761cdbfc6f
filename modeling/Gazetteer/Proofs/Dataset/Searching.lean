/-
# Gazetteer.Proofs.Dataset.Searching -- finding countries by a part of a name

A query finds a country if the key of the trimmed query occurs in the key of one of its names. All
that is used of a key is that it is a function of the text, so the statements hold under every way
of spelling texts in ASCII; `Dataset.named` searches under the one of `Gazetteer.Text.Folding`.

Occurring is transitive, so a query whose key holds that of another finds no more than the other. A
query without a key is the exception, since it finds nothing. And a text is trimmed before it is
spelled when it is a query, but not when it is a name. White space in front of a name may change the
spelling of what stands behind it, so a name finds its own country on a condition only.
-/
import Mathlib.Data.List.Basic
import Gazetteer.Dataset.Lookup
import Gazetteer.Dataset.Loading
import Gazetteer.Proofs.Text.Leftmost

namespace Gazetteer.Dataset

open Text (keyUnder trim)

variable {spelling : Text → Text} {d : Dataset} {c : Country} {query more : Text}

/-! ## Names -/

theorem mem_namesOf_iff {name : Text} :
    name ∈ namesOf c ↔ name = c.name ∨ name ∈ c.officialName ∨ name ∈ c.nativeNames := by
  unfold namesOf
  rw [List.cons_append, List.mem_cons, List.mem_append, Option.mem_toList, Option.mem_def]

/-- The key occurs in the key of a name of the country. -/
def HoldsKey (spelling : Text → Text) (key : Text) (c : Country) : Prop :=
  ∃ name ∈ namesOf c, key <:+: keyUnder spelling name

/-- Country by country: a key holds whatever occurs in it. -/
theorem HoldsKey.mono {key part : Text} (h : HoldsKey spelling key c) (hpart : part <:+: key) :
    HoldsKey spelling part c := by
  obtain ⟨name, hname, hkey⟩ := h
  exact ⟨name, hname, hpart.trans hkey⟩

theorem any_occursIn_iff {key : Text} (hkey : key ≠ []) :
    (namesOf c).any (fun name => Text.occursIn key (keyUnder spelling name)) = true
      ↔ HoldsKey spelling key c := by
  rw [List.any_eq_true]
  simp only [Text.occursIn_iff_isInfix hkey, HoldsKey]

/-! ## Searching -/

theorem namedUnder_of_no_key (h : keyUnder spelling (trim query) = []) :
    d.namedUnder spelling query = [] := by
  unfold namedUnder
  rw [h]
  rfl

theorem namedUnder_of_key (h : keyUnder spelling (trim query) ≠ []) :
    d.namedUnder spelling query = d.countries.filter fun c => (namesOf c).any fun name =>
      Text.occursIn (keyUnder spelling (trim query)) (keyUnder spelling name) := by
  unfold namedUnder
  rw [if_neg (by rwa [List.isEmpty_iff])]

theorem mem_namedUnder_iff :
    c ∈ d.namedUnder spelling query ↔ c ∈ d.countries ∧ keyUnder spelling (trim query) ≠ []
      ∧ HoldsKey spelling (keyUnder spelling (trim query)) c := by
  by_cases hkey : keyUnder spelling (trim query) = []
  · rw [namedUnder_of_no_key hkey]
    simp [hkey]
  · rw [namedUnder_of_key hkey, List.mem_filter, any_occursIn_iff hkey, and_iff_right hkey]

theorem namedUnder_sublist : (d.namedUnder spelling query).Sublist d.countries := by
  by_cases hkey : keyUnder spelling (trim query) = []
  · rw [namedUnder_of_no_key hkey]
    exact List.nil_sublist _
  · rw [namedUnder_of_key hkey]
    exact List.filter_sublist

theorem namedUnder_congr
    (h : keyUnder spelling (trim query) = keyUnder spelling (trim more)) :
    d.namedUnder spelling query = d.namedUnder spelling more := by
  unfold namedUnder
  rw [h]

/-- The longer query finds a part of what the shorter one does, in the same order. -/
theorem namedUnder_mono (hquery : keyUnder spelling (trim query) ≠ [])
    (h : keyUnder spelling (trim query) <:+: keyUnder spelling (trim more)) :
    (d.namedUnder spelling more).Sublist (d.namedUnder spelling query) := by
  have hmore : keyUnder spelling (trim more) ≠ [] := by
    intro hnil
    rw [hnil] at h
    exact hquery (List.infix_nil.mp h)
  rw [namedUnder_of_key hquery, namedUnder_of_key hmore]
  apply List.monotone_filter_right
  intro c hc
  rw [any_occursIn_iff hquery]
  exact ((any_occursIn_iff hmore).mp hc).mono h

/-- **Typing more narrows a search.** However texts are spelled, and in any dataset: what a query
finds are countries of the dataset in their order, each entry at most once, and it depends on
nothing but the key of the trimmed query. If that key is not empty and occurs in the key of another
trimmed query, everything that the other finds is found too, in the same order. And every country is
found by each of its names, as long as the key of the trimmed name is not empty and occurs in the
key of the name as it stands. -/
theorem namedUnder_narrows (spelling : Text → Text) (d : Dataset) :
    (∀ query, (d.namedUnder spelling query).Sublist d.countries)
      ∧ (∀ query more : Text, keyUnder spelling (trim query) = keyUnder spelling (trim more) →
        d.namedUnder spelling query = d.namedUnder spelling more)
      ∧ (∀ query more : Text, keyUnder spelling (trim query) ≠ [] →
        keyUnder spelling (trim query) <:+: keyUnder spelling (trim more) →
        (d.namedUnder spelling more).Sublist (d.namedUnder spelling query))
      ∧ ∀ c ∈ d.countries, ∀ name : Text,
        (name = c.name ∨ name ∈ c.officialName ∨ name ∈ c.nativeNames) →
        keyUnder spelling (trim name) ≠ [] →
        keyUnder spelling (trim name) <:+: keyUnder spelling name →
        c ∈ d.namedUnder spelling name := by
  refine ⟨fun query => namedUnder_sublist, fun query more h => namedUnder_congr h,
    fun query more hquery h => namedUnder_mono hquery h, fun c hc name hname hkey hin => ?_⟩
  rw [mem_namedUnder_iff]
  exact ⟨hc, hkey, name, mem_namesOf_iff.mpr hname, hin⟩

/-- A part of an accented name, with white space around it, and a name in another script whose
spelling changes when it is trimmed. -/
theorem namedUnder_narrows_spelled :
    let c : Country :=
      { alpha2 := "CN", name := "China", officialName := some "République populaire de Chine",
        nativeNames := ["\t中国 "] }
    let d : Dataset := ⟨c :: embedded.countries, [], []⟩
    let key (query : Text) : Text := Text.foldedKey (trim query)
    key " ÉPUB" ≠ [] ∧ key " ÉPUB" <:+: key "REPUBLIQUE\t"
      ∧ (d.named "REPUBLIQUE\t").Sublist (d.named " ÉPUB")
      ∧ (d.named "REPUBLIQUE\t").map Country.alpha2 = (["CN", "FR"] : List Text)
      ∧ key "\t中国 " = "zhong guo" ∧ Text.foldedKey "\t中国 " = "\tzhong guo "
      ∧ c ∈ d.named "\t中国 " := by
  intro c d key
  obtain ⟨-, -, hnarrow, hname⟩ := namedUnder_narrows Text.inAscii d
  have hkey : key " ÉPUB" ≠ [] := by decide +kernel
  have hin : key " ÉPUB" <:+: key "REPUBLIQUE\t" := by decide +kernel
  have hnative : key "\t中国 " = "zhong guo" := by decide +kernel
  refine ⟨hkey, hin, hnarrow _ _ hkey hin, by decide +kernel, hnative, by decide +kernel, ?_⟩
  apply hname c List.mem_cons_self _ (.inr (.inr List.mem_cons_self))
  · decide +kernel
  · decide +kernel

end Gazetteer.Dataset
