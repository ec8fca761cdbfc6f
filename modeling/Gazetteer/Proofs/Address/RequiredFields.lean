/-
# Gazetteer.Proofs.Address.RequiredFields -- the fields that a template requires

The lines of a template are scanned as they stand, and they may hold anything: tags that are never
closed, braces in a row, names that only begin like a key. A field is required if one of the lines,
taken apart at its substitutions from left to right, has a token with exactly the key of the field.
Tags of sections and first-blocks are no such tokens, and neither do they hide those that stand
between them.

The fields found are collected into a set. So it makes no difference in which order the lines come
and how often each does, and the fields are answered in canonical order.
-/
import Gazetteer.Proofs.Address.ListedFields
import Gazetteer.Proofs.Address.Substitutions

namespace Gazetteer.Address

open Template (Substitution StartsSubstitution sees_substitution substitutionKeys tag)
open Text (Split)

variable {line key : Text} {lines more : List Text}

/-! ## Lines -/

/-- A token with this key is among the substitutions at which the line is taken apart, from left to
right. -/
def Substitutes (line key : Text) : Prop :=
  ∃ s : Split Substitution,
    s.Leftmost Substitution.written Substitution.Valid StartsSubstitution line
      ∧ ∃ v ∈ s.found, v.key = key

theorem mem_substitutionKeys_iff : key ∈ substitutionKeys line ↔ Substitutes line key := by
  unfold substitutionKeys
  constructor
  · intro hkey
    obtain ⟨s, hs⟩ := sees_substitution.exists_leftmost line
    rw [sees_substitution.occurrences_eq hs] at hkey
    obtain ⟨v, hv, heq⟩ := List.mem_map.mp hkey
    exact ⟨s, hs, v, hv, heq⟩
  · rintro ⟨s, hs, v, hv, rfl⟩
    rw [sees_substitution.occurrences_eq hs]
    exact List.mem_map_of_mem hv

/-! ## Templates -/

theorem ascending_requiredFields (template : Option (List Text)) :
    Field.Ascending (requiredFields template) :=
  Field.ascending_collected _

/-- Only the set of the lines matters. -/
theorem requiredFields_congr (h : ∀ line, line ∈ lines ↔ line ∈ more) :
    requiredFields (some lines) = requiredFields (some more) := by
  apply (ascending_requiredFields _).eq_of_mem_iff (ascending_requiredFields _)
  intro f
  simp only [mem_requiredFields, Option.getD_some, h]

/-- What two templates require together is the sorted union of what each of them does. -/
theorem requiredFields_append (lines more : List Text) :
    requiredFields (some (lines ++ more))
      = (requiredFields (some lines) ∪ requiredFields (some more)).mergeSort
          (fun f g => f.rank ≤ g.rank) := by
  apply (ascending_requiredFields _).eq_of_mem_iff
    (Field.ascending_mergeSort_union _ (ascending_requiredFields _))
  intro f
  rw [List.mem_mergeSort, List.mem_union_iff]
  simp only [mem_requiredFields, Option.getD_some, List.mem_append, or_and_right, exists_or]

/-- **Required fields are exactly the substituted ones.** The required fields of a template stand in
canonical order, none of them twice. A field is among them exactly if one of the lines, whatever it
holds, has a substitution with the key of the field. They depend on nothing but the set of the
lines, those of two templates together are the sorted union of those of each, and without a template
there are none. -/
theorem requiredFields_substituted :
    (∀ template, (requiredFields template).Pairwise (fun f g => f.rank < g.rank))
      ∧ (∀ (lines : List Text) (f : Field),
        f ∈ requiredFields (some lines) ↔ ∃ line ∈ lines, Substitutes line f.key)
      ∧ (∀ lines more : List Text, (∀ line, line ∈ lines ↔ line ∈ more) →
        requiredFields (some lines) = requiredFields (some more))
      ∧ (∀ lines more : List Text, requiredFields (some (lines ++ more))
        = (requiredFields (some lines) ∪ requiredFields (some more)).mergeSort
            (fun f g => f.rank ≤ g.rank))
      ∧ requiredFields none = [] := by
  refine ⟨ascending_requiredFields, fun lines f => ?_, fun lines more h => requiredFields_congr h,
    requiredFields_append, rfl⟩
  rw [mem_requiredFields, Option.getD_some]
  simp only [mem_substitutionKeys_iff]

/-- Section tags, a name that only begins like a key, a token that is not closed, and one between
four braces. -/
theorem requiredFields_substituted_malformed :
    let lines : List Text :=
      [tag "#road" ++ tag "state_code" ++ tag "roads" ++ tag "/road",
        "\x7b\x7broad\x7d" ++ tag " road ", "\x7b\x7b" ++ tag "city" ++ "\x7d\x7d" ++ tag "house"]
    (∀ line, line ∈ lines ↔ line ∈ lines.reverse ++ lines)
      ∧ requiredFields (some (lines.reverse ++ lines)) = [.house, .city, .stateCode]
      ∧ (∃ line ∈ lines, Substitutes line (Field.key .city))
      ∧ ¬ ∃ line ∈ lines, Substitutes line (Field.key .road) := by
  intro lines
  obtain ⟨-, hmem, hset, -, -⟩ := requiredFields_substituted
  have hfields : requiredFields (some lines) = [.house, .city, .stateCode] := by decide +kernel
  have hsame : ∀ line, line ∈ lines ↔ line ∈ lines.reverse ++ lines := by
    intro line
    rw [List.mem_append, List.mem_reverse, or_self]
  refine ⟨hsame, ?_, ?_, ?_⟩
  · rw [← hset lines (lines.reverse ++ lines) hsame, hfields]
  · rw [← hmem, hfields]
    decide
  · rw [← hmem, hfields]
    decide

end Gazetteer.Address
