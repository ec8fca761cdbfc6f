/-
# Gazetteer.Proofs.Address.LastWrite -- the last write to a field wins

Components are edited through two tables over the fields, and their values are asked for by key
through a third. Whatever is done to a set that starts empty, a field holds what was last written to
it since a new set was last collected. An edit that names no field writes nothing at all, also where
only one of its names is no key. The components of a command line, written as `key=value`, are
collected in the same way, and the value is everything after the first equals sign.

"The last one that matters" is said once, for lists of anything: the last element that touches
something also gives it. What one more element does to it is the one fact that every run below uses.
-/
import Mathlib.Data.List.Induction
import Gazetteer.Address.Slots
import Gazetteer.Proofs.Address.ListedFields

namespace Gazetteer.Address

/-! ## The last one that matters -/

section Latest

variable {α : Type} {touches gives : α → Prop}

/-- Some element gives what is asked for, and none behind it touches it. -/
def Latest (touches gives : α → Prop) (l : List α) : Prop :=
  ∃ front a behind, l = front ++ a :: behind ∧ gives a ∧ ∀ b ∈ behind, ¬ touches b

theorem not_latest_nil : ¬ Latest touches gives [] := by
  rintro ⟨front, a, behind, h, -, -⟩
  simp at h

/-- One more element gives it, or does not touch it and leaves it to the others. -/
theorem latest_concat {l : List α} {a : α} :
    Latest touches gives (l ++ [a]) ↔ gives a ∨ ¬ touches a ∧ Latest touches gives l := by
  constructor
  · rintro ⟨front, b, behind, h, hgives, huntouched⟩
    rcases List.eq_nil_or_concat' behind with rfl | ⟨behind, c, rfl⟩
    · obtain ⟨-, hab⟩ := List.append_inj' h rfl
      obtain rfl : a = b := by simpa using hab
      exact .inl hgives
    · rw [← List.cons_append, ← List.append_assoc] at h
      obtain ⟨hl, hac⟩ := List.append_inj' h rfl
      obtain rfl : a = c := by simpa using hac
      refine .inr ⟨huntouched a (by simp), front, b, behind, hl, hgives, fun d hd => ?_⟩
      exact huntouched d (List.mem_append_left _ hd)
  · rintro (hgives | ⟨ha, front, b, behind, rfl, hgives, huntouched⟩)
    · exact ⟨l, a, [], rfl, hgives, by simp⟩
    · refine ⟨front, b, behind ++ [a], by simp, hgives, fun d hd => ?_⟩
      rcases List.mem_append.mp hd with hd | hd
      · exact huntouched d hd
      · obtain rfl : d = a := by simpa using hd
        exact ha

end Latest

/-! ## The tables -/

/-- A write changes its own slot and no other. -/
@[simp]
theorem Slots.slot_set (s : Slots) (f : Field) (v : Text) (g : Field) :
    (s.set f v).slot g = if g = f then some v else s.slot g := by
  cases f <;> cases g <;> rfl

@[simp]
theorem Slots.slot_empty (f : Field) : Slots.empty.slot f = none := by
  cases f <;> rfl

theorem Slots.components_set (s : Slots) (f : Field) (v : Text) :
    (s.set f v).components = s.components.set f v :=
  congrArg Components.mk (funext (slot_set s f v))

theorem Slots.components_empty : Slots.empty.components = .empty :=
  congrArg Components.mk (funext slot_empty)

/-- The slots collected from a list of values hold the components collected from it. -/
theorem Slots.components_ofPairs (pairs : List (Field × Text)) :
    (Slots.ofPairs pairs).components = .ofPairs pairs := by
  induction pairs using List.reverseRecOn with
  | nil => exact components_empty
  | append_singleton pairs p ih =>
    rw [ofPairs, Components.ofPairs, List.foldl_concat, List.foldl_concat, components_set]
    exact congrArg (Components.set · p.1 p.2) ih

/-- In a list of values, the last value of a field counts. -/
theorem Slots.slot_ofPairs {pairs : List (Field × Text)} {f : Field} {v : Text} :
    (Slots.ofPairs pairs).slot f = some v
      ↔ Latest (fun p => p.1 = f) (fun p => p.1 = f ∧ p.2 = v) pairs := by
  induction pairs using List.reverseRecOn with
  | nil => simp [ofPairs, not_latest_nil]
  | append_singleton pairs p ih =>
    rw [latest_concat, ← ih, ofPairs, List.foldl_concat, slot_set]
    by_cases hp : p.1 = f
    · simp [hp]
    · simp [hp, Ne.symm hp, ofPairs]

/-! ## Names -/

theorem Field.parse_eq_ok_iff {t : Text} {f : Field} :
    Field.parse t = .ok f ↔ Text.trim t = f.key := by
  rw [eq_comm (a := Text.trim t), ← Field.ofKey?_eq_some_iff, Field.parse]
  cases Field.ofKey? (Text.trim t) <;> simp

theorem Field.key_injective {f g : Field} (h : f.key = g.key) : f = g := by
  have hf : Field.ofKey? g.key = some f := Field.ofKey?_eq_some_iff.mpr h
  have hg : Field.ofKey? g.key = some g := Field.ofKey?_eq_some_iff.mpr rfl
  exact Option.some.inj (hf.symm.trans hg)

/-- A name of no field is told as it was given. -/
theorem Field.parse_eq_error {t : Text} (h : ∀ f : Field, Text.trim t ≠ f.key) :
    Field.parse t = .error ⟨t⟩ := by
  cases hparse : Field.parse t with
  | ok f => exact absurd (Field.parse_eq_ok_iff.mp hparse) (h f)
  | error u =>
    rw [Field.parse] at hparse
    split at hparse
    · exact absurd hparse (by simp)
    · exact hparse.symm

/-- The name of a value is the key of a field. -/
def IsFor (f : Field) (p : Text × Text) : Prop := Text.trim p.1 = f.key

theorem readNamed_eq_ok_iff {p : Text × Text} {q : Field × Text} :
    readNamed p = .ok q ↔ IsFor q.1 p ∧ p.2 = q.2 := by
  obtain ⟨f, v⟩ := q
  rw [IsFor, ← Field.parse_eq_ok_iff, readNamed]
  cases Field.parse p.1 <;> simp

theorem isFor_iff {p : Text × Text} {q : Field × Text} (h : readNamed p = .ok q) (f : Field) :
    IsFor f p ↔ q.1 = f := by
  obtain ⟨hq, -⟩ := readNamed_eq_ok_iff.mp h
  constructor
  · intro hf
    exact Field.key_injective (hq.symm.trans hf)
  · rintro rfl
    exact hq

theorem readNamed_eq_error {p : Text × Text} (h : ∀ f, ¬ IsFor f p) :
    readNamed p = .error ⟨p.1⟩ := by
  rw [readNamed, Field.parse_eq_error h]

/-! ## Reading a list -/

/-- Where not all elements fit, there is a first one that does not. -/
theorem exists_first_unfit {α : Type} {fits : α → Prop} {l : List α} (h : ¬ ∀ a ∈ l, fits a) :
    ∃ front a behind, l = front ++ a :: behind ∧ (∀ b ∈ front, fits b) ∧ ¬ fits a := by
  induction l with
  | nil => exact absurd (by simp) h
  | cons a l ih =>
    by_cases ha : fits a
    · have hrest : ¬ ∀ b ∈ l, fits b := fun hall => h (List.forall_mem_cons.mpr ⟨ha, hall⟩)
      obtain ⟨front, b, behind, rfl, hfront, hb⟩ := ih hrest
      exact ⟨a :: front, b, behind, rfl, List.forall_mem_cons.mpr ⟨ha, hfront⟩, hb⟩
    · exact ⟨[], a, l, rfl, by simp, ha⟩

section MapM

variable {ε α β : Type} {read : α → Except ε β}

/-- A list is read when all of its elements are. -/
theorem exists_mapM_eq_ok {l : List α} (h : ∀ a ∈ l, ∃ b, read a = .ok b) :
    ∃ bs, l.mapM read = .ok bs := by
  induction l with
  | nil => exact ⟨[], rfl⟩
  | cons a l ih =>
    obtain ⟨b, hb⟩ := h a (by simp)
    obtain ⟨bs, hbs⟩ := ih fun a' ha' => h a' (List.mem_cons_of_mem a ha')
    refine ⟨b :: bs, ?_⟩
    rw [List.mapM_cons, hb, hbs]
    rfl

/-- The first element that is refused is the one that is told. -/
theorem mapM_eq_error {front behind : List α} {a : α} {e : ε}
    (hfront : ∀ b ∈ front, ∃ c, read b = .ok c) (ha : read a = .error e) :
    (front ++ a :: behind).mapM read = .error e := by
  obtain ⟨cs, hcs⟩ := exists_mapM_eq_ok hfront
  rw [List.mapM_append, hcs, List.mapM_cons, ha]
  rfl

theorem mapM_concat_eq_ok {l : List α} {a : α} {bs : List β}
    (h : (l ++ [a]).mapM read = .ok bs) :
    ∃ front b, l.mapM read = .ok front ∧ read a = .ok b ∧ bs = front ++ [b] := by
  rw [List.mapM_append, List.mapM_cons, List.mapM_nil] at h
  cases hl : l.mapM read with
  | error e => simp [hl, bind, Except.bind] at h
  | ok front =>
    cases hb : read a with
    | error e => simp [hl, hb, bind, Except.bind] at h
    | ok b =>
      simp [hl, hb, bind, Except.bind, pure, Except.pure] at h
      exact ⟨front, b, rfl, rfl, h.symm⟩

/-- What is last among the elements is last among what is read from them. -/
theorem latest_of_mapM {touches gives : α → Prop} {touches' gives' : β → Prop}
    (h : ∀ a b, read a = .ok b → (touches a ↔ touches' b) ∧ (gives a ↔ gives' b))
    {l : List α} {bs : List β} (hread : l.mapM read = .ok bs) :
    Latest touches' gives' bs ↔ Latest touches gives l := by
  induction l using List.reverseRecOn generalizing bs with
  | nil =>
    obtain rfl : [] = bs := Except.ok.inj hread
    exact iff_of_false not_latest_nil not_latest_nil
  | append_singleton l a ih =>
    obtain ⟨front, b, hfront, hb, rfl⟩ := mapM_concat_eq_ok hread
    obtain ⟨htouches, hgives⟩ := h a b hb
    rw [latest_concat, latest_concat, ih hfront, htouches, hgives]

end MapM

/-! ## One edit -/

namespace Edit

/-- The named values of an edit. -/
def named : Edit → List (Text × Text)
  | .set name value => [(name, value)]
  | .collect named => named

/-- Every name of the edit is the key of a field. -/
def Accepted (e : Edit) : Prop := ∀ p ∈ e.named, ∃ f, IsFor f p

/-- The edit starts a new set. -/
def Collects : Edit → Prop
  | .set _ _ => False
  | .collect _ => True

/-- What the field held before the edit is gone: the edit names the field, or starts a new set. -/
def Touches (f : Field) (e : Edit) : Prop :=
  e.Accepted ∧ (e.Collects ∨ ∃ p ∈ e.named, IsFor f p)

/-- The last value that the edit has for the field is this one. -/
def Writes (f : Field) (v : Text) (e : Edit) : Prop :=
  e.Accepted ∧ Latest (IsFor f) (fun p => IsFor f p ∧ p.2 = v) e.named

/-- The first name that is no key is told as it was given. -/
theorem apply_eq_error {e : Edit} {front behind : List (Text × Text)} {p : Text × Text}
    (h : e.named = front ++ p :: behind) (hfront : ∀ q ∈ front, ∃ f, IsFor f q)
    (hp : ∀ f, ¬ IsFor f p) (s : Slots) : e.apply s = .error ⟨p.1⟩ := by
  have hrefused : e.named.mapM readNamed = .error ⟨p.1⟩ := by
    rw [h]
    refine mapM_eq_error (fun q hq => ?_) (readNamed_eq_error hp)
    obtain ⟨f, hf⟩ := hfront q hq
    exact ⟨(f, q.2), readNamed_eq_ok_iff.mpr ⟨hf, rfl⟩⟩
  cases e with
  | set name value =>
    rw [named, List.mapM_cons, List.mapM_nil] at hrefused
    rw [apply]
    cases hread : readNamed (name, value) with
    | ok q => simp [hread, bind, Except.bind, pure, Except.pure] at hrefused
    | error u => simpa [hread, bind, Except.bind] using hrefused
  | collect named =>
    rw [Edit.named] at hrefused
    rw [apply, hrefused]
    rfl

end Edit

/-- An edit that is refused has a first name that is no key; it is told, and nothing is changed. -/
theorem Slots.after_of_not_accepted {e : Edit} (h : ¬ e.Accepted) (s : Slots) :
    s.after e = s ∧ ∃ front p behind, e.named = front ++ p :: behind
      ∧ (∀ q ∈ front, ∃ f, IsFor f q) ∧ (∀ f, ¬ IsFor f p) ∧ e.apply s = .error ⟨p.1⟩ := by
  obtain ⟨front, p, behind, hnamed, hfront, hunfit⟩ := exists_first_unfit h
  have hp : ∀ f, ¬ IsFor f p := not_exists.mp hunfit
  have herror : e.apply s = .error ⟨p.1⟩ := Edit.apply_eq_error hnamed hfront hp s
  refine ⟨?_, front, p, behind, hnamed, hfront, hp, herror⟩
  rw [after, herror]

/-- An edit whose names are all keys is done. It makes a field hold the last value that it has for
it, and the fields that it does not touch hold what they held. -/
theorem Edit.apply_of_accepted {e : Edit} (h : e.Accepted) (s : Slots) :
    ∃ edited, e.apply s = .ok edited ∧ ∀ f v, edited.slot f = some v
      ↔ e.Writes f v ∨ ¬ e.Touches f ∧ s.slot f = some v := by
  have hread : ∀ p ∈ e.named, ∃ q, readNamed p = .ok q := by
    intro p hp
    obtain ⟨f, hf⟩ := h p hp
    exact ⟨(f, p.2), readNamed_eq_ok_iff.mpr ⟨hf, rfl⟩⟩
  cases e with
  | set name value =>
    obtain ⟨⟨g, w⟩, hq⟩ := hread (name, value) (by simp [named])
    obtain rfl : value = w := (readNamed_eq_ok_iff.mp hq).2
    refine ⟨s.set g value, by rw [apply, hq]; rfl, fun f v => ?_⟩
    have hfor : IsFor f (name, value) ↔ g = f := isFor_iff hq f
    have hwrites : Writes f v (.set name value) ↔ g = f ∧ value = v := by
      rw [Writes, and_iff_right h, named, ← List.nil_append [(name, value)], latest_concat, hfor]
      simp [not_latest_nil]
    have htouches : Touches f (.set name value) ↔ g = f := by
      simp [Touches, h, Collects, named, hfor]
    rw [hwrites, htouches, Slots.slot_set]
    by_cases hfg : g = f
    · simp [hfg]
    · simp [hfg, Ne.symm hfg]
  | collect named =>
    obtain ⟨pairs, hpairs⟩ := exists_mapM_eq_ok hread
    rw [Edit.named] at hpairs
    refine ⟨.ofPairs pairs, by rw [apply, hpairs]; rfl, fun f v => ?_⟩
    have hsame : ∀ p q, readNamed p = .ok q →
        (IsFor f p ↔ q.1 = f) ∧ (IsFor f p ∧ p.2 = v ↔ q.1 = f ∧ q.2 = v) := by
      intro p q hpq
      rw [isFor_iff hpq f, (readNamed_eq_ok_iff.mp hpq).2]
      exact ⟨Iff.rfl, Iff.rfl⟩
    rw [Slots.slot_ofPairs, latest_of_mapM hsame hpairs]
    simp [Writes, Touches, h, Collects, Edit.named]

/-! ## A run of edits -/

/-- What one edit does to a field. -/
theorem Slots.slot_after (s : Slots) (e : Edit) (f : Field) (v : Text) :
    (s.after e).slot f = some v ↔ e.Writes f v ∨ ¬ e.Touches f ∧ s.slot f = some v := by
  by_cases h : e.Accepted
  · obtain ⟨edited, hedited, hslot⟩ := Edit.apply_of_accepted h s
    rw [after, hedited]
    exact hslot f v
  · rw [(after_of_not_accepted h s).1]
    simp [Edit.Writes, Edit.Touches, h]

/-- After a run of edits a field holds its last write. -/
theorem Slots.slot_edited (edits : List Edit) (f : Field) (v : Text) :
    (Slots.edited edits).slot f = some v ↔ Latest (Edit.Touches f) (Edit.Writes f v) edits := by
  induction edits using List.reverseRecOn with
  | nil => simp [edited, not_latest_nil]
  | append_singleton edits e ih =>
    rw [latest_concat, ← ih, edited, List.foldl_concat]
    exact slot_after _ e f v

/-! ## Values -/

/-- A key that names no field has no value. -/
theorem value_of_no_key {k : Text} (h : ∀ f : Field, f.key ≠ k) (c : Components) :
    c.value k = [] := by
  have hnone : Field.ofKey? k = none := by
    rw [Option.eq_none_iff_forall_ne_some]
    intro f hf
    exact h f (Field.ofKey?_eq_some_iff.mp hf)
  exact value_of_ofKey?_eq_none hnone c

/-- A set of components is blank when all that its fields hold is white space. -/
theorem isBlank_iff (c : Components) :
    c.isBlank = true ↔ ∀ f, ∀ v ∈ c.get? f, Text.isBlank v = true := by
  have hvalue : ∀ f : Field, c.value f.key = [] ↔ ∀ v ∈ c.get? f, Text.isBlank v = true := by
    intro f
    rw [value_key]
    cases c.get? f <;> simp [Text.trim_eq_nil_iff]
  simp only [Components.isBlank, List.all_eq_true, List.isEmpty_iff, hvalue]
  exact ⟨fun h f => h f f.mem_all, fun h f _ => h f⟩

/-! ## Components written as `key=value` -/

/-- The text is a component for the field: a name of the field, an equals sign and the value. The
name holds no equals sign, so that the sign is the first one. -/
def IsComponent (f : Field) (v t : Text) : Prop :=
  ∃ name, t = name ++ '=' :: v ∧ '=' ∉ name ∧ Text.trim name = f.key

/-- A text is cut at its first equals sign. -/
theorem cut?_equals_iff {t name v : Text} :
    Text.cut? "=" t = some (name, v) ↔ t = name ++ '=' :: v ∧ '=' ∉ name := by
  have hcut : ∀ {name : Text}, '=' ∉ name → ∀ v : Text,
      Text.cut? ['='] (name ++ '=' :: v) = some (name, v) := by
    intro name hname v
    apply Text.cut?_append (by simp)
    apply Text.passes_of_forall
    intro c hc t
    apply Text.mark_eq_none
    rw [List.cons_prefix_cons]
    rintro ⟨rfl, -⟩
    exact hname hc
  constructor
  · intro h
    by_cases hmem : '=' ∈ t
    · obtain ⟨front, behind, rfl, hfront⟩ := List.eq_append_cons_of_mem hmem
      have hsame : some (front, behind) = some (name, v) := (hcut hfront behind).symm.trans h
      obtain ⟨rfl, rfl⟩ := Prod.mk.inj (Option.some.inj hsame)
      exact ⟨rfl, hfront⟩
    · have hnone : Text.cut? ['='] t = none := by
        apply Text.cut?_of_notMem (by simp)
        rintro c hc
        rwa [List.mem_singleton.mp hc]
      exact absurd (hnone.symm.trans h) (by simp)
  · rintro ⟨rfl, hname⟩
    exact hcut hname v

theorem parseComponent_eq_ok_iff {t v : Text} {f : Field} :
    parseComponent t = .ok (f, v) ↔ IsComponent f v t := by
  unfold IsComponent
  rw [parseComponent]
  constructor
  · intro h
    split at h
    · exact absurd h (by simp)
    · rename_i name value hcut
      obtain ⟨rfl, hname⟩ := cut?_equals_iff.mp hcut
      split at h
      · rename_i g hg
        obtain ⟨rfl, rfl⟩ := Prod.mk.inj (Except.ok.inj h)
        exact ⟨name, rfl, hname, Field.parse_eq_ok_iff.mp hg⟩
      · exact absurd h (by simp)
  · rintro ⟨name, rfl, hname, hkey⟩
    rw [cut?_equals_iff.mpr ⟨rfl, hname⟩]
    simp only [Field.parse_eq_ok_iff.mpr hkey]

/-- The components collected from a list of texts hold, for each field, what the last text for it
says. -/
theorem get?_ofPairs_parsed {texts : List Text} {pairs : List (Field × Text)}
    (h : texts.mapM parseComponent = .ok pairs) (f : Field) (v : Text) :
    (Components.ofPairs pairs).get? f = some v
      ↔ Latest (fun t => ∃ w, IsComponent f w t) (IsComponent f v) texts := by
  have hsame : ∀ t q, parseComponent t = .ok q →
      ((∃ w, IsComponent f w t) ↔ q.1 = f) ∧ (IsComponent f v t ↔ q.1 = f ∧ q.2 = v) := by
    rintro t ⟨g, w⟩ hq
    simp only [← parseComponent_eq_ok_iff, hq, Except.ok.injEq, Prod.mk.injEq]
    exact ⟨⟨fun ⟨_, hg, _⟩ => hg, fun hg => ⟨w, hg, rfl⟩⟩, trivial⟩
  rw [← Slots.components_ofPairs]
  exact Slots.slot_ofPairs.trans (latest_of_mapM hsame h)

/-! ## Main result -/

/-- **The last write wins.** After every run of edits on the empty set, a field holds the value of
its last write since a set was last collected, as it was written. The value of its key is what it
holds, trimmed, and every other key has none. The set is blank when all that it holds is white
space. An edit is done when all of its names, trimmed, are keys; otherwise the first that is none is
told and the set stays as it is. A text is a component exactly when the part before its first equals
sign, trimmed, is a key, and of a list of components the last one for a field counts. -/
theorem components_lastWrite :
    (∀ edits : List Edit,
      let s := Slots.edited edits
      (∀ f v, s.slot f = some v ↔ Latest (Edit.Touches f) (Edit.Writes f v) edits)
        ∧ (∀ f, s.components.value f.key = ((s.slot f).map Text.trim).getD [])
        ∧ (∀ k, (∀ f : Field, f.key ≠ k) → s.components.value k = [])
        ∧ (s.components.isBlank = true ↔ ∀ f v, s.slot f = some v → Text.isBlank v = true)
        ∧ ∀ e : Edit,
          (e.Accepted → ∃ edited, e.apply s = .ok edited)
            ∧ (¬ e.Accepted → s.after e = s
              ∧ ∃ front p behind, e.named = front ++ p :: behind ∧ (∀ q ∈ front, ∃ f, IsFor f q)
                ∧ (∀ f, ¬ IsFor f p) ∧ e.apply s = .error ⟨p.1⟩))
      ∧ (∀ t f v, parseComponent t = .ok (f, v) ↔ IsComponent f v t)
      ∧ ∀ texts pairs, texts.mapM parseComponent = .ok pairs → ∀ f v,
        (Components.ofPairs pairs).get? f = some v
          ↔ Latest (fun t => ∃ w, IsComponent f w t) (IsComponent f v) texts := by
  refine ⟨fun edits => ?_, fun t f v => parseComponent_eq_ok_iff,
    fun texts pairs h => get?_ofPairs_parsed h⟩
  intro s
  refine ⟨Slots.slot_edited edits, value_key s.components, fun k hk => value_of_no_key hk _,
    isBlank_iff s.components, fun e => ⟨fun h => ?_, fun h => Slots.after_of_not_accepted h s⟩⟩
  obtain ⟨edited, hedited, -⟩ := Edit.apply_of_accepted h s
  exact ⟨edited, hedited⟩

/-- Names that overlap, padded names, a value with an equals sign, and a name of no field among
the values of a new set. -/
theorem components_lastWrite_overlapping :
    let edits : List Edit :=
      [.set "road" "Elm", .collect [(" house ", "Lodge"), ("city", "Bonn"), ("city", " ")],
        .set "house_number" " 12 ", .collect [("state", "NW"), ("attention", "Ada")]]
    let s := Slots.edited edits
    let texts : List Text := ["road=Elm", " house =a=b", "road=", "house_number=12"]
    let pairs : List (Field × Text) :=
      [(.road, "Elm"), (.house, "a=b"), (.road, ""), (.houseNumber, "12")]
    s.slot .house = some "Lodge".toList ∧ s.slot .road = none
      ∧ s.components.value "attention" = []
      ∧ s.after (.set "attention" "Ada") = s
      ∧ texts.mapM parseComponent = .ok pairs
      ∧ (Components.ofPairs pairs).get? .road = some [] := by
  intro edits s texts pairs
  obtain ⟨hrun, -, htexts⟩ := components_lastWrite
  obtain ⟨-, -, hunnamed, -, hrefused⟩ := hrun edits
  have hnoKey : ∀ f : Field, f.key ≠ "attention".toList := by
    intro f
    cases f <;> decide
  have hnotAccepted : ¬ (Edit.set "attention" "Ada").Accepted := by
    intro h
    obtain ⟨f, hf⟩ := h _ (List.mem_singleton_self _)
    exact hnoKey f hf.symm
  have hpairs : texts.mapM parseComponent = .ok pairs := by rfl
  refine ⟨by decide +kernel, by decide +kernel, hunnamed _ hnoKey,
    ((hrefused _).2 hnotAccepted).1, hpairs, ?_⟩
  rw [htexts texts pairs hpairs]
  refine ⟨["road=Elm", " house =a=b"], "road=", ["house_number=12"], rfl,
    ⟨"road", rfl, by decide, by decide⟩, ?_⟩
  intro t ht
  obtain rfl := List.mem_singleton.mp ht
  rintro ⟨w, hw⟩
  have hparse : parseComponent "house_number=12" = .ok (.houseNumber, "12") := by rfl
  rw [← parseComponent_eq_ok_iff, hparse] at hw
  simp at hw

end Gazetteer.Address
