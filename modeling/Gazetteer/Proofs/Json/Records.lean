/-
# Gazetteer.Proofs.Json.Records -- what an object is read as

An object is read as a record exactly if all its keys mean texts and each field holds its value:
that of the only member with its key, or a default if there is none (`Fields.ofObject_eq_ok_iff`).
Nothing in this depends on the order of the members, and members of other keys do not come into it.

The types that are read from records are those of a dataset document, those of a dataset, and what
the library tells of addresses, phone numbers and amounts.
-/
import Gazetteer.Address.Form
import Gazetteer.Dataset.Form
import Gazetteer.Phone.Form
import Gazetteer.Proofs.Json.Gathering

namespace Gazetteer.Json

/-! ## The values of fields -/

/-- The value of a field: of the only member with its key, or by default without one. -/
def Shape.Holds (s : Shape) (optional : Bool) : List Doc → s.Value → Prop
  | [], v => s.inObject optional = some v
  | [d], v => s.ofDoc d = .ok v
  | _, _ => False

/-- The values of all fields. -/
def Fields.Holds : (fs : Fields) → List Member → fs.Values → Prop
  | .nil, _, _ => True
  | .cons key optional s rest, ms, vs =>
    s.Holds optional (valuesAt key ms) vs.1 ∧ rest.Holds ms vs.2

/-- A field that was read or may be missing holds its value. -/
theorem Shape.holds_iff {s : Shape} {optional : Bool} {ds : List Doc} {v : s.Value} :
    s.Holds optional ds v
      ↔ ∃ w, s.Fills ds none w ∧ (w <|> s.inObject optional) = some v := by
  simp only [Shape.fills_none_iff]
  cases ds with
  | nil =>
    constructor
    · exact fun h => ⟨none, .inl ⟨rfl, rfl⟩, h⟩
    · rintro ⟨w, ⟨-, rfl⟩ | ⟨d, x, h, -⟩, hv⟩
      · exact hv
      · exact absurd h (by simp)
  | cons d ds =>
    cases ds with
    | nil =>
      constructor
      · exact fun h => ⟨some v, .inr ⟨d, v, rfl, h, rfl⟩, rfl⟩
      · rintro ⟨w, ⟨h, -⟩ | ⟨d', x, hd, hx, rfl⟩, hv⟩
        · exact absurd h (by simp)
        · obtain ⟨rfl, -⟩ := List.cons.inj hd
          obtain rfl := Option.some.inj hv
          exact hx
    | cons d' ds =>
      refine iff_of_false id ?_
      rintro ⟨w, ⟨h, -⟩ | ⟨d'', x, hd, -⟩, -⟩
      · exact absurd h (by simp)
      · exact absurd hd (by simp)

/-- A record is complete when its first field is there and the others are complete. -/
theorem Fields.complete_cons_iff {key : Text} {optional : Bool} {s : Shape} {rest : Fields}
    {w : Option s.Value} {ws : rest.Partial} {v : s.Value} {vs : rest.Values} :
    (Fields.cons key optional s rest).complete (w, ws) = .ok (v, vs)
      ↔ (w <|> s.inObject optional) = some v ∧ rest.complete ws = .ok vs := by
  rw [Fields.complete]
  cases (w <|> s.inObject optional) with
  | none => exact iff_of_false (by simp) (by simp)
  | some v' =>
    cases rest.complete ws with
    | error m => exact iff_of_false (by simp) (by simp)
    | ok vs' =>
      constructor
      · intro h
        obtain ⟨rfl, rfl⟩ := Prod.mk.inj (Except.ok.inj h)
        exact ⟨rfl, rfl⟩
      · rintro ⟨hv, hvs⟩
        obtain rfl := Option.some.inj hv
        obtain rfl := Except.ok.inj hvs
        rfl

/-- The fields make a complete record exactly if each holds its value. -/
theorem Fields.holds_iff {ms : List Member} : {fs : Fields} → {vs : fs.Values} →
    (fs.Holds ms vs ↔ ∃ state, fs.Gathers ms fs.start state ∧ fs.complete state = .ok vs)
  | .nil, () => iff_of_true trivial ⟨(), trivial, rfl⟩
  | .cons key optional s rest, (v, vs) => by
    have hrest : rest.Holds ms vs
        ↔ ∃ state, rest.Gathers ms rest.start state ∧ rest.complete state = .ok vs := rest.holds_iff
    constructor
    · rintro ⟨hfirst, hothers⟩
      obtain ⟨w, hfills, hv⟩ := Shape.holds_iff.mp hfirst
      obtain ⟨ws, hgathers, hvs⟩ := hrest.mp hothers
      exact ⟨(w, ws), ⟨hfills, hgathers⟩, Fields.complete_cons_iff.mpr ⟨hv, hvs⟩⟩
    · rintro ⟨⟨w, ws⟩, ⟨hfills, hgathers⟩, hcomplete⟩
      obtain ⟨hv, hvs⟩ := Fields.complete_cons_iff.mp hcomplete
      exact ⟨Shape.holds_iff.mpr ⟨w, hfills, hv⟩, hrest.mpr ⟨ws, hgathers, hvs⟩⟩

/-- The fields of a record from the members of an object, which must leave none out. -/
def Fields.ofObject (fs : Fields) (ms : List Member) : Except Fault fs.Values :=
  fs.gather ms fs.start >>= fun state => match fs.complete state with
    | .error m => .error (.mismatch m)
    | .ok vs => .ok vs

theorem Shape.ofDoc_object {title : Text} {fs : Fields} {ms : List Member} :
    (Shape.record title fs).ofDoc (.object ms) = fs.ofObject ms := rfl

/-- **What an object is read as**: a record, exactly if its keys mean texts and each field holds its
value. Neither the order of the members nor members of other keys matter. -/
theorem Fields.ofObject_eq_ok_iff {fs : Fields} (hkeys : fs.keys.Nodup) {ms : List Member}
    {vs : fs.Values} : fs.ofObject ms = .ok vs ↔ HaveKeys ms ∧ fs.Holds ms vs := by
  have hcomplete : ∀ state : fs.Partial, (match fs.complete state with
      | .error m => Except.error (Fault.mismatch m)
      | .ok vs => .ok vs) = .ok vs ↔ fs.complete state = .ok vs := by
    intro state
    cases fs.complete state <;> simp
  rw [ofObject, bind_eq_ok_iff, Fields.holds_iff]
  simp only [Fields.gather_eq_ok_iff hkeys, hcomplete]
  constructor
  · rintro ⟨state, ⟨hmeans, hgathers⟩, hvs⟩
    exact ⟨hmeans, state, hgathers, hvs⟩
  · rintro ⟨hmeans, state, hgathers, hvs⟩
    exact ⟨state, ⟨hmeans, hgathers⟩, hvs⟩

/-! ## The record types -/

/-- The types that are read from records: four for the parts of a dataset document, and those of
which datasets, addresses, phone numbers and amounts are made. -/
inductive Form.IsRecord : {α : Type} → Form α → Prop where
  | document : IsRecord Document.form
  | countryEntry : IsRecord Country.entryForm
  | languageEntry : IsRecord LanguageEntry.form
  | groupEntry : IsRecord GroupEntry.form
  | dataset : IsRecord Dataset.form
  | country : IsRecord Country.form
  | language : IsRecord Language.form
  | group : IsRecord Group.form
  | stats : IsRecord Dataset.Stats.form
  | components : IsRecord Address.Components.form
  | phoneNumber : IsRecord Phone.Number.form
  | currencyFormat : IsRecord Currency.Format.form
  | currencyPart : IsRecord Currency.Part.form

theorem Form.IsRecord.isSound {α : Type} {f : Form α} (h : f.IsRecord) : f.shape.isSound = true := by
  cases h <;> decide

end Gazetteer.Json
