/-
# Gazetteer.Proofs.Json.Spelling -- the texts that spell a value

A value may be spelled in many ways, which differ in the white space around its parts. `Spells` lists
them; the compact layout and the layout over lines are two of them. What reading makes of a text is
settled by the value it spells, so nothing about reading needs to know of layouts.
-/
import Gazetteer.Json.Value
import Gazetteer.Proofs.Json.Numeral

namespace Gazetteer.Json

open Storage (Ending)
open Text (utf8 numeral)

/-! ## Spellings -/

/-- What stands in front of an item: nothing at first, and a comma later. -/
def comma (isFirst : Bool) (w : Text) : Text := if isFirst then [] else w ++ [',']

mutual

/-- The texts of a value. -/
inductive Spells : Json → Text → Prop where
  | null : Spells .null "null"
  | boolean (b : Bool) : Spells (.boolean b) (booleanWord b)
  | number (n : Nat) : Spells (.number n) (numeral n)
  | text (t : Text) : Spells (.text t) (quoted t)
  | array {items : List Json} {t w : Text} (hitems : SpellsItems true items t) (hw : IsSpace w) :
    Spells (.array items) ('[' :: (t ++ (w ++ [']'])))
  | object {members : List (Text × Json)} {t w : Text} (hmembers : SpellsMembers true members t)
    (hw : IsSpace w) : Spells (.object members) ('{' :: (t ++ (w ++ ['}'])))

/-- The texts of the items of a list; the flag says that no item stands before them. -/
inductive SpellsItems : Bool → List Json → Text → Prop where
  | nil {isFirst : Bool} : SpellsItems isFirst [] []
  | cons {isFirst : Bool} {v : Json} {items : List Json} {u t w w' : Text} (hw : IsSpace w)
    (hw' : IsSpace w') (hv : Spells v u) (hitems : SpellsItems false items t) :
    SpellsItems isFirst (v :: items) (comma isFirst w ++ (w' ++ (u ++ t)))

/-- The texts of the members of an object; the flag says that no member stands before them. -/
inductive SpellsMembers : Bool → List (Text × Json) → Text → Prop where
  | nil {isFirst : Bool} : SpellsMembers isFirst [] []
  | cons {isFirst : Bool} {key : Text} {v : Json} {members : List (Text × Json)}
    {u t w w' x x' : Text} (hw : IsSpace w) (hw' : IsSpace w') (hx : IsSpace x) (hx' : IsSpace x')
    (hv : Spells v u) (hmembers : SpellsMembers false members t) :
    SpellsMembers isFirst ((key, v) :: members)
      (comma isFirst w ++ (w' ++ (quoted key ++ ((x ++ ':' :: (x' ++ u)) ++ t))))

end

/-! ## The two layouts -/

/-- Items with a comma in front are items that do not come first. -/
theorem SpellsItems.notFirst {items : List Json} {t : Text} (h : SpellsItems true items t)
    (hne : items ≠ []) : SpellsItems false items (',' :: t) := by
  cases h with
  | nil => exact absurd rfl hne
  | cons _ hw' hv hitems => exact .cons (w := []) isSpace_nil hw' hv hitems

theorem SpellsMembers.notFirst {members : List (Text × Json)} {t : Text}
    (h : SpellsMembers true members t) (hne : members ≠ []) :
    SpellsMembers false members (',' :: t) := by
  cases h with
  | nil => exact absurd rfl hne
  | cons _ hw' hx hx' hv hmembers => exact .cons (w := []) isSpace_nil hw' hx hx' hv hmembers

/-- White space in front of the first item belongs to the items. -/
theorem SpellsItems.one {v : Json} {u w : Text} (hw : IsSpace w) (hv : Spells v u) :
    SpellsItems true [v] (w ++ u) := by
  have hone : SpellsItems true [v] (comma true [] ++ (w ++ (u ++ []))) :=
    .cons isSpace_nil hw hv .nil
  rwa [List.append_nil] at hone

/-- An item in front of others, with a comma between. -/
theorem SpellsItems.before {v : Json} {items : List Json} {u t w : Text} (hw : IsSpace w)
    (hv : Spells v u) (hitems : SpellsItems true items t) (hne : items ≠ []) :
    SpellsItems true (v :: items) (w ++ (u ++ ',' :: t)) := by
  have hbefore : SpellsItems true (v :: items) (comma true [] ++ (w ++ (u ++ ',' :: t))) :=
    .cons isSpace_nil hw hv (hitems.notFirst hne)
  exact hbefore

theorem SpellsMembers.one {key : Text} {v : Json} {u w x : Text} (hw : IsSpace w) (hx : IsSpace x)
    (hv : Spells v u) : SpellsMembers true [(key, v)] (w ++ (quoted key ++ ':' :: (x ++ u))) := by
  have hone : SpellsMembers true [(key, v)]
      (comma true [] ++ (w ++ (quoted key ++ (([] ++ ':' :: (x ++ u)) ++ [])))) :=
    .cons isSpace_nil hw isSpace_nil hx hv .nil
  rwa [List.append_nil] at hone

theorem SpellsMembers.before {key : Text} {v : Json} {members : List (Text × Json)} {u t w x : Text}
    (hw : IsSpace w) (hx : IsSpace x) (hv : Spells v u) (hmembers : SpellsMembers true members t)
    (hne : members ≠ []) :
    SpellsMembers true ((key, v) :: members)
      (w ++ (quoted key ++ ':' :: (x ++ (u ++ ',' :: t)))) := by
  have hbefore : SpellsMembers true ((key, v) :: members)
      (comma true [] ++ (w ++ (quoted key ++ (([] ++ ':' :: (x ++ u)) ++ ',' :: t)))) :=
    .cons isSpace_nil hw isSpace_nil hx hv (hmembers.notFirst hne)
  rw [List.nil_append, List.cons_append, List.append_assoc x] at hbefore
  exact hbefore

mutual

/-- The compact layout spells the value. -/
theorem spells_compact : (v : Json) → Spells v v.compact
  | .null => .null
  | .boolean b => .boolean b
  | .number n => .number n
  | .text t => .text t
  | .array items => .array (w := []) (spells_compactItems items) isSpace_nil
  | .object members => .object (w := []) (spells_compactMembers members) isSpace_nil

theorem spells_compactItems : (items : List Json) → SpellsItems true items (compactItems items)
  | [] => .nil
  | [v] => .one (w := []) isSpace_nil (spells_compact v)
  | v :: v' :: items =>
    .before (w := []) isSpace_nil (spells_compact v) (spells_compactItems (v' :: items)) (by simp)

theorem spells_compactMembers :
    (members : List (Text × Json)) → SpellsMembers true members (compactMembers members)
  | [] => .nil
  | [(key, v)] => .one (w := []) (x := []) isSpace_nil isSpace_nil (spells_compact v)
  | (key, v) :: member :: members => by
    have hbefore : SpellsMembers true ((key, v) :: member :: members)
        ([] ++ (quoted key ++ ':' :: ([] ++ (v.compact ++ ',' :: compactMembers (member :: members))))) :=
      .before isSpace_nil isSpace_nil (spells_compact v) (spells_compactMembers (member :: members))
        (by simp)
    show SpellsMembers true _ (quoted key ++ ':' :: v.compact ++ ',' :: _)
    rw [List.append_assoc]
    exact hbefore

end

theorem isSpace_newLine (level : Nat) : IsSpace (newLine level) := by
  intro c hc
  rcases List.mem_cons.mp hc with rfl | hc
  · decide
  · rw [List.eq_of_mem_replicate hc]
    decide

mutual

/-- The layout over lines spells the value. -/
theorem spells_pretty : (v : Json) → (level : Nat) → Spells v (v.pretty level)
  | .null, _ => .null
  | .boolean b, _ => .boolean b
  | .number n, _ => .number n
  | .text t, _ => .text t
  | .array [], _ => .array (w := []) .nil isSpace_nil
  | .array (v :: items), level => by
    have harray := Spells.array (spells_prettyItems (v :: items) (level + 1))
      (isSpace_newLine level)
    show Spells _ ('[' :: prettyItems (level + 1) (v :: items) ++ newLine level ++ [']'])
    rw [List.append_assoc]
    exact harray
  | .object [], _ => .object (w := []) .nil isSpace_nil
  | .object (member :: members), level => by
    have hobject := Spells.object (spells_prettyMembers (member :: members) (level + 1))
      (isSpace_newLine level)
    show Spells _ ('{' :: prettyMembers (level + 1) (member :: members) ++ newLine level ++ ['}'])
    rw [List.append_assoc]
    exact hobject

theorem spells_prettyItems :
    (items : List Json) → (level : Nat) → SpellsItems true items (prettyItems level items)
  | [], _ => .nil
  | [v], level => .one (isSpace_newLine level) (spells_pretty v level)
  | v :: v' :: items, level => by
    have hbefore := SpellsItems.before (isSpace_newLine level) (spells_pretty v level)
      (spells_prettyItems (v' :: items) level) (by simp)
    show SpellsItems true _ (newLine level ++ v.pretty level ++ ',' :: _)
    rw [List.append_assoc]
    exact hbefore

theorem spells_prettyMembers :
    (members : List (Text × Json)) → (level : Nat) →
      SpellsMembers true members (prettyMembers level members)
  | [], _ => .nil
  | [(key, v)], level => by
    have hone : SpellsMembers true [(key, v)]
        (newLine level ++ (quoted key ++ ':' :: ([' '] ++ v.pretty level))) :=
      .one (isSpace_newLine level) (by decide) (spells_pretty v level)
    show SpellsMembers true _ (newLine level ++ quoted key ++ ':' :: ' ' :: v.pretty level)
    rw [List.append_assoc]
    exact hone
  | (key, v) :: member :: members, level => by
    have hbefore : SpellsMembers true ((key, v) :: member :: members)
        (newLine level ++ (quoted key ++ ':' :: ([' '] ++ (v.pretty level ++
          ',' :: prettyMembers level (member :: members))))) :=
      .before (isSpace_newLine level) (by decide) (spells_pretty v level)
        (spells_prettyMembers (member :: members) level) (by simp)
    show SpellsMembers true _
      (newLine level ++ quoted key ++ ':' :: ' ' :: v.pretty level ++ ',' :: _)
    rw [List.append_assoc, List.append_assoc]
    exact hbefore

end

end Gazetteer.Json
