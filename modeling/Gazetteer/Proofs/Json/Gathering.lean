/-
# Gazetteer.Proofs.Json.Gathering -- how the members of an object come into fields

The members of an object are taken one by one in the order of the text, yet each field sees only the
members with its own key. `Shape.Fills` is what they do to one field, `Fields.Gathers` to all of them,
and taking the members one by one comes to just that (`Fields.gather_eq_ok_iff`), as long as the
fields have different keys.
-/
import Gazetteer.Proofs.Json.Meaning

namespace Gazetteer.Json

/-! ## Members by key -/

/-- The values of the members whose key means a text. -/
def valuesAt (k : Text) (ms : List Member) : List Doc :=
  ms.filterMap fun m => if m.1.text? = some k then some m.2 else none

theorem valuesAt_append (k : Text) (ms ms' : List Member) :
    valuesAt k (ms ++ ms') = valuesAt k ms ++ valuesAt k ms' := List.filterMap_append

theorem valuesAt_cons (k : Text) (m : Member) (ms : List Member) :
    valuesAt k (m :: ms) = (if m.1.text? = some k then [m.2] else []) ++ valuesAt k ms := by
  rw [valuesAt, List.filterMap_cons]
  by_cases h : m.1.text? = some k
  · rw [if_pos h, if_pos h]
    rfl
  · rw [if_neg h, if_neg h]
    rfl

/-- A member among others is seen by the field with its key only. -/
theorem valuesAt_middle (k : Text) (before behind : List Member) (m : Member) :
    valuesAt k (before ++ m :: behind)
      = if m.1.text? = some k then valuesAt k before ++ m.2 :: valuesAt k behind
        else valuesAt k (before ++ behind) := by
  rw [valuesAt_append, valuesAt_cons, valuesAt_append]
  split <;> rfl

/-- The keys that mean texts, as those texts. -/
def keysOf (ms : List Member) : List Text := ms.filterMap fun m => m.1.text?

theorem keysOf_append (ms ms' : List Member) : keysOf (ms ++ ms') = keysOf ms ++ keysOf ms' :=
  List.filterMap_append

theorem length_valuesAt (k : Text) (ms : List Member) :
    (valuesAt k ms).length = (keysOf ms).count k := by
  induction ms with
  | nil => rfl
  | cons m ms ih =>
    have hkeys : keysOf (m :: ms) = m.1.text?.toList ++ keysOf ms := by
      rw [keysOf, List.filterMap_cons]
      cases m.1.text? <;> rfl
    rw [valuesAt_cons, List.length_append, ih, hkeys, List.count_append]
    congr 1
    cases m.1.text? with
    | none => rfl
    | some key => by_cases hk : key = k <;> simp [hk]

theorem valuesAt_eq_nil_iff {k : Text} {ms : List Member} : valuesAt k ms = [] ↔ k ∉ keysOf ms := by
  rw [← List.length_eq_zero_iff, length_valuesAt, List.count_eq_zero]

theorem read_eq_ok_iff {l : Literal} {t : Text} : l.read = .ok t ↔ l.text? = some t := by
  rw [Literal.read]
  cases l.text? <;> simp

/-- All keys mean texts. -/
def HaveKeys (ms : List Member) : Prop := ∀ m ∈ ms, m.1.text?.isSome = true

theorem haveKeys_middle_iff {before behind : List Member} {m : Member} :
    HaveKeys (before ++ m :: behind) ↔ m.1.text?.isSome = true ∧ HaveKeys (before ++ behind) := by
  simp only [HaveKeys, List.forall_mem_append, List.forall_mem_cons]
  exact and_left_comm

/-! ## Fields by key and by place -/

/-- The shape of the field with a key. -/
def Fields.shapeOf? : Fields → Text → Option Shape
  | .nil, _ => none
  | .cons key _ s rest, k => if k = key then some s else rest.shapeOf? k

/-- The shape of the field at a place. -/
def Fields.shapeAt? : Fields → Nat → Option Shape
  | .nil, _ => none
  | .cons _ _ s _, 0 => some s
  | .cons _ _ _ rest, i + 1 => rest.shapeAt? i

theorem Fields.shapeOf?_isSome {k : Text} :
    {fs : Fields} → ((fs.shapeOf? k).isSome = true ↔ k ∈ fs.keys)
  | .nil => by simp [shapeOf?, keys]
  | .cons key _ s rest => by
    rw [shapeOf?, keys, List.mem_cons, ← rest.shapeOf?_isSome]
    by_cases h : k = key <;> simp [h]

theorem Fields.isSound_of_shapeOf? {s : Shape} {k : Text} : {fs : Fields} → fs.isSound = true →
    fs.shapeOf? k = some s → s.isSound = true
  | .cons key _ s' rest, hsound, hk => by
    simp only [Fields.isSound, Bool.and_eq_true] at hsound
    rw [Fields.shapeOf?] at hk
    split at hk
    · obtain rfl := Option.some.inj hk
      exact hsound.1.2
    · exact Fields.isSound_of_shapeOf? hsound.2 hk

theorem Fields.isSound_of_shapeAt? {s : Shape} : {fs : Fields} → {i : Nat} → fs.isSound = true →
    fs.shapeAt? i = some s → s.isSound = true
  | .cons _ _ s' rest, 0, hsound, hi => by
    simp only [Fields.isSound, Bool.and_eq_true] at hsound
    obtain rfl := Option.some.inj hi
    exact hsound.1.2
  | .cons _ _ s' rest, i + 1, hsound, hi => by
    simp only [Fields.isSound, Bool.and_eq_true] at hsound
    exact Fields.isSound_of_shapeAt? (i := i) hsound.2 hi

/-! ## Faults in a row -/

variable {α β : Type}

/-- Two things done after each other come to a value by a value in between. -/
theorem bind_eq_ok_iff {x : Except Fault α} {f : α → Except Fault β} {b : β} :
    (x >>= f) = .ok b ↔ ∃ a, x = .ok a ∧ f a = .ok b := by
  cases x with
  | error e => exact iff_of_false (by simp [bind, Except.bind]) (by simp)
  | ok a =>
    constructor
    · exact fun h => ⟨a, rfl, h⟩
    · rintro ⟨a', ha, h⟩
      obtain rfl := Except.ok.inj ha
      exact h

/-! ## One field -/

/-- What the members with the key of a field do to it: the first fills it, and no second may
follow. -/
def Shape.Fills (s : Shape) : List Doc → Option s.Value → Option s.Value → Prop
  | [], v, v' => v' = v
  | d :: ds, v, v' => v = none ∧ ∃ x, s.ofDoc d = .ok x ∧ s.Fills ds (some x) v'

theorem Shape.fills_append {s : Shape} {ds ds' : List Doc} {v v' : Option s.Value} :
    s.Fills (ds ++ ds') v v' ↔ ∃ w, s.Fills ds v w ∧ s.Fills ds' w v' := by
  induction ds generalizing v with
  | nil =>
    constructor
    · exact fun h => ⟨v, rfl, h⟩
    · rintro ⟨w, rfl, h⟩
      exact h
  | cons d ds ih =>
    constructor
    · rintro ⟨hv, x, hx, h⟩
      obtain ⟨w, hfirst, hsecond⟩ := ih.mp h
      exact ⟨w, ⟨hv, x, hx, hfirst⟩, hsecond⟩
    · rintro ⟨w, ⟨hv, x, hx, hfirst⟩, hsecond⟩
      exact ⟨hv, x, hx, ih.mpr ⟨w, hfirst, hsecond⟩⟩

/-- A field that was empty is filled by one member at most. -/
theorem Shape.fills_none_iff {s : Shape} {ds : List Doc} {v : Option s.Value} :
    s.Fills ds none v ↔ (ds = [] ∧ v = none) ∨ ∃ d x, ds = [d] ∧ s.ofDoc d = .ok x ∧ v = some x := by
  cases ds with
  | nil => simp [Fills]
  | cons d ds =>
    cases ds with
    | nil =>
      constructor
      · rintro ⟨-, x, hx, rfl⟩
        exact .inr ⟨d, x, rfl, hx, rfl⟩
      · rintro (⟨h, -⟩ | ⟨d', x, hd, hx, rfl⟩)
        · exact absurd h (by simp)
        · obtain ⟨rfl, -⟩ := List.cons.inj hd
          exact ⟨rfl, x, hx, rfl⟩
    | cons d' ds =>
      refine iff_of_false ?_ ?_
      · rintro ⟨-, x, -, hsecond, -⟩
        exact absurd hsecond (by simp)
      · rintro (⟨h, -⟩ | ⟨d'', x, hd, -⟩)
        · exact absurd h (by simp)
        · exact absurd hd (by simp)

/-! ## All fields -/

/-- What the members of an object do to the fields. -/
def Fields.Gathers : (fs : Fields) → List Member → fs.Partial → fs.Partial → Prop
  | .nil, _, _, _ => True
  | .cons key _ s rest, ms, state, state' =>
    s.Fills (valuesAt key ms) state.1 state'.1 ∧ rest.Gathers ms state.2 state'.2

theorem Fields.gathers_nil : {fs : Fields} → {state state' : fs.Partial} →
    (fs.Gathers [] state state' ↔ state' = state)
  | .nil, _, _ => iff_of_true trivial rfl
  | .cons _ _ s rest, state, state' => by
    have hrest : rest.Gathers [] state.2 state'.2 ↔ state'.2 = state.2 := rest.gathers_nil
    constructor
    · rintro ⟨h₁, h₂⟩
      exact Prod.ext h₁ (hrest.mp h₂)
    · rintro rfl
      exact ⟨rfl, hrest.mpr rfl⟩

theorem Fields.gathers_append {ms ms' : List Member} : {fs : Fields} →
    {state state' : fs.Partial} →
    (fs.Gathers (ms ++ ms') state state'
      ↔ ∃ between, fs.Gathers ms state between ∧ fs.Gathers ms' between state')
  | .nil, _, _ => ⟨fun _ => ⟨(), trivial, trivial⟩, fun _ => trivial⟩
  | .cons key _ s rest, state, state' => by
    have hrest : rest.Gathers (ms ++ ms') state.2 state'.2
        ↔ ∃ between, rest.Gathers ms state.2 between ∧ rest.Gathers ms' between state'.2 :=
      rest.gathers_append
    constructor
    · rintro ⟨h₁, h₂⟩
      rw [valuesAt_append] at h₁
      obtain ⟨v, hv, hv'⟩ := Shape.fills_append.mp h₁
      obtain ⟨vs, hvs, hvs'⟩ := hrest.mp h₂
      exact ⟨(v, vs), ⟨hv, hvs⟩, ⟨hv', hvs'⟩⟩
    · rintro ⟨⟨v, vs⟩, ⟨hv, hvs⟩, ⟨hv', hvs'⟩⟩
      refine ⟨?_, hrest.mpr ⟨vs, hvs, hvs'⟩⟩
      rw [valuesAt_append]
      exact Shape.fills_append.mpr ⟨v, hv, hv'⟩

/-- A member with a key that no field has changes nothing. -/
theorem Fields.gathers_of_notMem {m : Member} {k : Text} (hkey : m.1.text? = some k) :
    {fs : Fields} → k ∉ fs.keys → {state state' : fs.Partial} →
      (fs.Gathers [m] state state' ↔ state' = state)
  | .nil, _, _, _ => iff_of_true trivial rfl
  | .cons key _ s rest, hk, state, state' => by
    rw [Fields.keys, List.mem_cons, not_or] at hk
    have hne : m.1.text? ≠ some key := by
      rw [hkey, ne_eq, Option.some.injEq]
      exact hk.1
    have hnone : valuesAt key [m] = [] := by
      rw [valuesAt_cons, if_neg hne]
      rfl
    have hrest : rest.Gathers [m] state.2 state'.2 ↔ state'.2 = state.2 :=
      Fields.gathers_of_notMem hkey hk.2
    rw [Fields.Gathers, hnone, hrest]
    constructor
    · rintro ⟨h₁, h₂⟩
      exact Prod.ext h₁ h₂
    · rintro rfl
      exact ⟨rfl, rfl⟩

/-- A field takes a value with its own key. -/
theorem Fields.ofMember_self_iff {key : Text} {optional : Bool} {s : Shape} {rest : Fields} {d : Doc}
    {v v' : Option s.Value} {vs vs' : rest.Partial} :
    (Fields.cons key optional s rest).ofMember key d (v, vs) = .ok (v', vs')
      ↔ s.Fills [d] v v' ∧ vs' = vs := by
  rw [ofMember, if_pos rfl]
  cases v with
  | some x =>
    refine iff_of_false (by simp) ?_
    rintro ⟨⟨h, -⟩, -⟩
    exact absurd h (by simp)
  | none =>
    rw [Option.isSome_none, if_neg (by decide)]
    cases hvalue : s.ofDoc d with
    | error e =>
      refine iff_of_false (by simp [Except.map]) ?_
      rintro ⟨⟨-, x, hx, -⟩, -⟩
      rw [hvalue] at hx
      exact absurd hx (by simp)
    | ok x =>
      constructor
      · intro h
        obtain ⟨rfl, rfl⟩ := Prod.mk.inj (Except.ok.inj h)
        exact ⟨⟨rfl, x, hvalue, rfl⟩, rfl⟩
      · rintro ⟨⟨-, y, hy, hfilled⟩, rfl⟩
        obtain rfl := Except.ok.inj (hvalue.symm.trans hy)
        have hv' : v' = some x := hfilled
        rw [hv']
        rfl

/-- A field leaves a value with another key to the fields behind it. -/
theorem Fields.ofMember_other_iff {key k : Text} {optional : Bool} {s : Shape} {rest : Fields}
    {d : Doc} {v v' : Option s.Value} {vs vs' : rest.Partial} (hk : k ≠ key) :
    (Fields.cons key optional s rest).ofMember k d (v, vs) = .ok (v', vs')
      ↔ v' = v ∧ rest.ofMember k d vs = .ok vs' := by
  rw [ofMember, if_neg hk]
  cases rest.ofMember k d vs with
  | error e => exact iff_of_false (by simp [Except.map]) (by simp)
  | ok ws =>
    constructor
    · intro h
      obtain ⟨rfl, rfl⟩ := Prod.mk.inj (Except.ok.inj h)
      exact ⟨rfl, rfl⟩
    · rintro ⟨rfl, hvs⟩
      rw [← Except.ok.inj hvs]
      rfl

/-- Taking one member is what it does to the fields. -/
theorem Fields.ofMember_iff {m : Member} {k : Text} (hkey : m.1.text? = some k) :
    {fs : Fields} → fs.keys.Nodup → {state state' : fs.Partial} →
      (fs.ofMember k m.2 state = .ok state' ↔ fs.Gathers [m] state state')
  | .nil, _, _, _ => iff_of_true rfl trivial
  | .cons key _ s rest, hkeys, (v, vs), (v', vs') => by
    obtain ⟨hfresh, hnodup⟩ := List.nodup_cons.mp hkeys
    show _ ↔ s.Fills (valuesAt key [m]) v v' ∧ rest.Gathers [m] vs vs'
    by_cases hk : k = key
    · subst hk
      have hone : valuesAt k [m] = [m.2] := by
        rw [valuesAt_cons, if_pos hkey]
        rfl
      rw [Fields.ofMember_self_iff, hone, Fields.gathers_of_notMem hkey hfresh]
    · have hne : m.1.text? ≠ some key := by
        rw [hkey, ne_eq, Option.some.injEq]
        exact hk
      have hnone : valuesAt key [m] = [] := by
        rw [valuesAt_cons, if_neg hne]
        rfl
      rw [Fields.ofMember_other_iff hk, hnone, Fields.ofMember_iff hkey hnodup]
      exact Iff.rfl

/-- The members of an object taken into fields, one after the other. -/
def Fields.gather (fs : Fields) (ms : List Member) (state : fs.Partial) : Except Fault fs.Partial :=
  ms.foldlM (fun state m => m.1.read >>= fun k => fs.ofMember k m.2 state) state

theorem Fields.gather_cons {fs : Fields} {m : Member} {ms : List Member} {state : fs.Partial} :
    fs.gather (m :: ms) state
      = m.1.read >>= fun k => fs.ofMember k m.2 state >>= fun state => fs.gather ms state := by
  rw [gather, List.foldlM_cons]
  cases m.1.read <;> rfl

/-- Members before others are taken first. -/
theorem Fields.gather_append {fs : Fields} {ms ms' : List Member} {state : fs.Partial} :
    fs.gather (ms ++ ms') state = fs.gather ms state >>= fun state => fs.gather ms' state :=
  List.foldlM_append

/-- **Taking the members one by one** comes to what they do to each field. -/
theorem Fields.gather_eq_ok_iff {fs : Fields} (hkeys : fs.keys.Nodup) {ms : List Member}
    {state state' : fs.Partial} :
    fs.gather ms state = .ok state' ↔ HaveKeys ms ∧ fs.Gathers ms state state' := by
  induction ms generalizing state with
  | nil =>
    rw [Fields.gathers_nil]
    constructor
    · intro h
      exact ⟨by simp [HaveKeys], (Except.ok.inj h).symm⟩
    · rintro ⟨-, rfl⟩
      rfl
  | cons m ms ih =>
    have happend : fs.Gathers ([m] ++ ms) state state'
        ↔ ∃ between, fs.Gathers [m] state between ∧ fs.Gathers ms between state' :=
      Fields.gathers_append
    rw [List.singleton_append] at happend
    rw [gather_cons, happend, HaveKeys, List.forall_mem_cons, bind_eq_ok_iff]
    constructor
    · rintro ⟨k, hread, h⟩
      obtain ⟨between, hstep, hgather⟩ := bind_eq_ok_iff.mp h
      have hkey := read_eq_ok_iff.mp hread
      obtain ⟨hothers, hgathers⟩ := ih.mp hgather
      exact ⟨⟨by rw [hkey]; rfl, hothers⟩, between, (Fields.ofMember_iff hkey hkeys).mp hstep,
        hgathers⟩
    · rintro ⟨⟨hmeans, hothers⟩, between, hstep, hgathers⟩
      obtain ⟨k, hkey⟩ := Option.isSome_iff_exists.mp hmeans
      exact ⟨k, read_eq_ok_iff.mpr hkey, bind_eq_ok_iff.mpr
        ⟨between, (Fields.ofMember_iff hkey hkeys).mpr hstep, ih.mpr ⟨hothers, hgathers⟩⟩⟩

end Gazetteer.Json
