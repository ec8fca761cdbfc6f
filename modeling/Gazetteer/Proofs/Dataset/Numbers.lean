/-
# Gazetteer.Proofs.Dataset.Numbers -- the phone numbers of the embedded countries

The mask and the pattern of every embedded country fit each other: whatever its digits are, a number
is incomplete, complete or surplus by its length alone, and it makes no difference whether it is
typed bare or as the mask sets it. Their patterns are small, and the limit on the size is the one
that programs run with.
-/
import Gazetteer.Dataset.Loading
import Gazetteer.Proofs.Phone.Complete

namespace Gazetteer.Dataset

open Phone (Mask Number)

/-- No embedded country refuses a number that fits its mask. -/
theorem embedded_admits :
    ∀ c ∈ embedded.countries, ∀ mask ∈ c.phoneFormat.bind Mask.ofText?, c.phone.Admits mask := by
  decide +kernel

/-- **Embedded numbers complete exactly at the mask's length.** -/
theorem analyzePhone_embedded {c : Country} (hc : c ∈ embedded.countries) {mask : Mask}
    (hmask : c.phoneFormat.bind Mask.ofText? = some mask) {d : Text}
    (hdigits : ∀ x ∈ d, x.isDigit = true) (hlength : d.length = mask.slots) :
    (∀ input ∈ [d, mask.fill d], c.analyzePhone input
        = { status := .complete, formatted := mask.fill d, typed := input,
            international := c.callingCode ++ ' ' :: mask.fill d })
      ∧ (∀ p, p <+: d → p ≠ [] → p ≠ d → ∀ input ∈ [p, mask.fill p], c.analyzePhone input
        = { status := .incomplete, formatted := mask.fill p, typed := input,
            international := c.callingCode ++ ' ' :: mask.fill p })
      ∧ (∀ e, e ≠ [] → (∀ x ∈ e, x.isDigit = true) → c.analyzePhone (d ++ e)
        = { status := .invalid, formatted := d ++ e, typed := d ++ e,
            international := d ++ e }) := by
  have hadmits : c.phone.Admits mask := embedded_admits c hc mask hmask
  refine ⟨fun input hinput => ?_, fun p hp hne hproper input hinput => ?_, fun e hne hmore => ?_⟩
  · exact hadmits.analyze_complete hmask hdigits hlength (by simpa using hinput)
  · have hpdigits : ∀ x ∈ p, x.isDigit = true := fun x hx => hdigits x (hp.subset hx)
    have hshort : p.length < mask.slots := by
      have hle : p.length ≤ d.length := hp.length_le
      have hneq : p.length ≠ d.length := fun heq => hproper (hp.eq_of_length heq)
      omega
    exact hadmits.analyze_incomplete hmask hpdigits hne hshort (by simpa using hinput)
  · have hall : ∀ x ∈ d ++ e, x.isDigit = true := by
      intro x hx
      rcases List.mem_append.mp hx with hx | hx
      · exact hdigits x hx
      · exact hmore x hx
    have hlong : mask.slots < (d ++ e).length := by
      have hpos : 0 < e.length := List.length_pos_iff.mpr hne
      rw [List.length_append]
      omega
    exact hadmits.analyze_surplus hmask hall hlong

/-- A Swiss number, whole, in part and with a digit too many. -/
theorem analyzePhone_embedded_swiss :
    let c := Embedded.switzerland.normal
    let mask : Mask := ⟨"## ### ## ##", by decide⟩
    c ∈ embedded.countries ∧ c.phoneFormat.bind Mask.ofText? = some mask
      ∧ c.analyzePhone "79 123 45 67"
        = { status := .complete, formatted := "79 123 45 67", typed := "79 123 45 67",
            international := "+41 79 123 45 67" }
      ∧ (c.analyzePhone "7912").formatted = "79 12".toList
      ∧ (c.analyzePhone "7912345678").status = .invalid := by
  intro c mask
  have hc : c ∈ embedded.countries :=
    List.mem_map_of_mem (by simp [Embedded.document])
  have hmask : c.phoneFormat.bind Mask.ofText? = some mask := rfl
  obtain ⟨hwhole, hpart, hsurplus⟩ :=
    analyzePhone_embedded hc hmask (d := "791234567".toList) (by decide) (by decide)
  refine ⟨hc, hmask, ?_, ?_, ?_⟩
  · exact hwhole "79 123 45 67".toList (by decide)
  · rw [hpart "7912".toList (by decide) (by decide) (by decide) _ (by simp)]
    decide
  · rw [show "7912345678".toList = "791234567".toList ++ "8".toList from rfl,
      hsurplus "8".toList (by decide) (by decide)]

end Gazetteer.Dataset
