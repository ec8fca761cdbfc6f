/-
# Gazetteer.Proofs.Json.Rearranged -- other ways to write the same data

The members of an object may stand in any order, and members that no field knows may stand among
them, whatever they hold. A record may also be written as the list of its fields in their order, with
null and empty lists for what is missing. All that may be done at any depth, and again and again:
`Rearranged` is the relation it makes between JSON values, along a shape.

What is read as some data is read as the same data after it (`Rearranged.ofDoc_eq`).
-/
import Gazetteer.Proofs.Json.Records

namespace Gazetteer.Json

/-! ## Rearranging -/

/-- What stands in a list for a field that is missing. -/
def Shape.placeholder : Shape → Doc
  | .nullable _ => .null
  | _ => .array []

/-- The values of the fields in their order. -/
def Fields.inOrder : Fields → List Member → List Doc
  | .nil, _ => []
  | .cons key _ s rest, ms => (valuesAt key ms).headD s.placeholder :: rest.inOrder ms

/-- One value is another one rearranged. -/
inductive Rearranged : Shape → Doc → Doc → Prop where
  | refl (s : Shape) (d : Doc) : Rearranged s d d
  | trans {s : Shape} {d d' d'' : Doc} (h : Rearranged s d d') (h' : Rearranged s d' d'') :
    Rearranged s d d''
  /-- The value of a shape that may be null. -/
  | nullable {s : Shape} {d d' : Doc} (h : Rearranged s d d') : Rearranged (.nullable s) d d'
  /-- An item of a list. -/
  | item {s : Shape} {d d' : Doc} (before behind : List Doc) (h : Rearranged s d d') :
    Rearranged (.list s) (.array (before ++ d :: behind)) (.array (before ++ d' :: behind))
  /-- A field of a record that is an object. -/
  | member {title k : Text} {fields : Fields} {key : Literal} {s : Shape} {d d' : Doc}
    (before behind : List Member) (hkey : key.text? = some k) (hk : fields.shapeOf? k = some s)
    (h : Rearranged s d d') :
    Rearranged (.record title fields) (.object (before ++ (key, d) :: behind))
      (.object (before ++ (key, d') :: behind))
  /-- A field of a record that is a list. -/
  | place {title : Text} {fields : Fields} {s : Shape} {d d' : Doc} (before behind : List Doc)
    (hplace : fields.shapeAt? before.length = some s) (h : Rearranged s d d') :
    Rearranged (.record title fields) (.array (before ++ d :: behind))
      (.array (before ++ d' :: behind))
  /-- Members in another order. -/
  | reorder {title : Text} {fields : Fields} {ms ms' : List Member} (h : ms.Perm ms') :
    Rearranged (.record title fields) (.object ms) (.object ms')
  /-- Another member, with a key that no field has. -/
  | insert {title k : Text} {fields : Fields} {key : Literal} (d : Doc)
    (before behind : List Member) (hkey : key.text? = some k) (hk : k ∉ fields.keys) :
    Rearranged (.record title fields) (.object (before ++ behind))
      (.object (before ++ (key, d) :: behind))
  /-- A list in place of an object. -/
  | listed {title : Text} {fields : Fields} (ms : List Member) :
    Rearranged (.record title fields) (.object ms) (.array (fields.inOrder ms))

/-- Null is no other value rearranged, and no other value is null. -/
theorem Rearranged.null_iff {s : Shape} {d d' : Doc} (h : Rearranged s d d') :
    d = .null ↔ d' = .null := by
  induction h with
  | refl => exact Iff.rfl
  | trans _ _ ih ih' => exact ih.trans ih'
  | nullable _ ih => exact ih
  | _ => exact iff_of_false (by simp) (by simp)

/-! ## Lists -/

/-- Another item that is read the same. -/
theorem mapM_replace {α : Type} {f : Doc → Except Fault α} {d d' : Doc} {behind : List Doc}
    (h : ∀ v, f d = .ok v → f d' = .ok v) {before : List Doc} {vs : List α}
    (hvs : (before ++ d :: behind).mapM f = .ok vs) :
    (before ++ d' :: behind).mapM f = .ok vs := by
  induction before generalizing vs with
  | nil =>
    rw [List.nil_append, List.mapM_cons, bind_eq_ok_iff] at hvs ⊢
    obtain ⟨v, hv, hrest⟩ := hvs
    exact ⟨v, h v hv, hrest⟩
  | cons x before ih =>
    rw [List.cons_append, List.mapM_cons, bind_eq_ok_iff] at hvs ⊢
    obtain ⟨v, hv, hrest⟩ := hvs
    obtain ⟨vs', hvs', hall⟩ := bind_eq_ok_iff.mp hrest
    exact ⟨v, hv, bind_eq_ok_iff.mpr ⟨vs', ih hvs', hall⟩⟩

/-! ## Objects -/

/-- Members that each field sees alike give the same fields. -/
theorem Fields.Holds.imp {ms ms' : List Member} : {fs : Fields} → {vs : fs.Values} →
    fs.keys.Nodup → (∀ k s, fs.shapeOf? k = some s → ∀ optional v,
      s.Holds optional (valuesAt k ms) v → s.Holds optional (valuesAt k ms') v) →
    fs.Holds ms vs → fs.Holds ms' vs
  | .nil, _, _, _, _ => trivial
  | .cons key optional s rest, (v, vs), hkeys, h, ⟨hfirst, hothers⟩ => by
    obtain ⟨hfresh, hnodup⟩ := List.nodup_cons.mp hkeys
    refine ⟨h key s (if_pos rfl) optional v hfirst, Fields.Holds.imp hnodup ?_ hothers⟩
    intro k s' hk
    have hmem : k ∈ rest.keys := Fields.shapeOf?_isSome.mp (by rw [hk]; rfl)
    have hne : k ≠ key := fun heq => hfresh (heq ▸ hmem)
    exact h k s' (by rw [Fields.shapeOf?, if_neg hne, hk])

theorem Shape.holds_perm {s : Shape} {optional : Bool} {ds ds' : List Doc} {v : s.Value}
    (h : ds.Perm ds') (hholds : s.Holds optional ds v) : s.Holds optional ds' v := by
  match ds, hholds with
  | [], hnone =>
    obtain rfl := List.nil_perm.mp h
    exact hnone
  | [d], hone =>
    obtain rfl := List.singleton_perm.mp h
    exact hone

/-- A field with a member holds its value, and there is no other member. -/
theorem Shape.holds_middle_iff {s : Shape} {optional : Bool} {before behind : List Doc} {d : Doc}
    {v : s.Value} :
    s.Holds optional (before ++ d :: behind) v ↔ before = [] ∧ behind = [] ∧ s.ofDoc d = .ok v := by
  match before, behind with
  | [], [] => simp [Holds]
  | [], _ :: _ => simp [Holds]
  | _ :: [], _ => simp [Holds]
  | _ :: _ :: _, _ => simp [Holds]

variable {fs : Fields} {before behind : List Member} {key : Literal} {k : Text}

/-- The members of an object in another order. -/
theorem Fields.ofObject_perm (hkeys : fs.keys.Nodup) {ms ms' : List Member} (h : ms.Perm ms')
    {vs : fs.Values} (hvs : fs.ofObject ms = .ok vs) : fs.ofObject ms' = .ok vs := by
  obtain ⟨hmeans, hholds⟩ := (ofObject_eq_ok_iff hkeys).mp hvs
  refine (ofObject_eq_ok_iff hkeys).mpr ⟨fun m hm => hmeans m (h.mem_iff.mpr hm), ?_⟩
  exact hholds.imp hkeys fun k s _ optional v => Shape.holds_perm (h.filterMap _)

/-- Another member that is read the same. -/
theorem Fields.ofObject_replace (hkeys : fs.keys.Nodup) {s : Shape} {d d' : Doc}
    (hkey : key.text? = some k) (hk : fs.shapeOf? k = some s)
    (hread : ∀ v, s.ofDoc d = .ok v → s.ofDoc d' = .ok v) {vs : fs.Values}
    (hvs : fs.ofObject (before ++ (key, d) :: behind) = .ok vs) :
    fs.ofObject (before ++ (key, d') :: behind) = .ok vs := by
  obtain ⟨hmeans, hholds⟩ := (ofObject_eq_ok_iff hkeys).mp hvs
  have hmeans' : HaveKeys (before ++ (key, d') :: behind) := by
    rw [haveKeys_middle_iff] at hmeans ⊢
    exact hmeans
  refine (ofObject_eq_ok_iff hkeys).mpr ⟨hmeans', hholds.imp hkeys ?_⟩
  intro k' s' hk' optional v hold
  rw [valuesAt_middle] at hold ⊢
  by_cases hsame : key.text? = some k'
  · obtain rfl := Option.some.inj (hkey.symm.trans hsame)
    obtain rfl := Option.some.inj (hk.symm.trans hk')
    rw [if_pos hsame, Shape.holds_middle_iff] at hold ⊢
    exact ⟨hold.1, hold.2.1, hread v hold.2.2⟩
  · rw [if_neg hsame] at hold ⊢
    exact hold

/-- Another member, with a key that no field has. -/
theorem Fields.ofObject_insert (hkeys : fs.keys.Nodup) (d : Doc) (hkey : key.text? = some k)
    (hk : k ∉ fs.keys) {vs : fs.Values} (hvs : fs.ofObject (before ++ behind) = .ok vs) :
    fs.ofObject (before ++ (key, d) :: behind) = .ok vs := by
  obtain ⟨hmeans, hholds⟩ := (ofObject_eq_ok_iff hkeys).mp hvs
  have hmeans' : HaveKeys (before ++ (key, d) :: behind) :=
    haveKeys_middle_iff.mpr ⟨by rw [hkey]; rfl, hmeans⟩
  refine (ofObject_eq_ok_iff hkeys).mpr ⟨hmeans', hholds.imp hkeys ?_⟩
  intro k' s hk' optional v hold
  have hmem : k' ∈ fs.keys := shapeOf?_isSome.mp (by rw [hk']; rfl)
  have hne : key.text? ≠ some k' := by
    rw [hkey, ne_eq, Option.some.injEq]
    exact fun heq => hk (heq ▸ hmem)
  rw [valuesAt_middle, if_neg hne]
  exact hold

/-! ## Records as lists -/

/-- Another value at its place that is read the same. -/
theorem Fields.ofItems_replace {s : Shape} {d d' : Doc} {behind : List Doc}
    (h : ∀ v, s.ofDoc d = .ok v → s.ofDoc d' = .ok v) : {fs : Fields} → {title : Text} →
    {size index : Nat} → (before : List Doc) → {r : fs.Values × List Doc} →
    fs.shapeAt? before.length = some s →
    fs.ofItems title size index (before ++ d :: behind) = .ok r →
    fs.ofItems title size index (before ++ d' :: behind) = .ok r
  | .cons _ _ s' rest, title, size, index, [], r, hplace, hr => by
    obtain rfl := Option.some.inj hplace
    simp only [List.nil_append, Fields.ofItems] at hr ⊢
    obtain ⟨v, hv, hrest⟩ := bind_eq_ok_iff.mp hr
    exact bind_eq_ok_iff.mpr ⟨v, h v hv, hrest⟩
  | .cons _ _ s' rest, title, size, index, x :: before, r, hplace, hr => by
    simp only [List.cons_append, Fields.ofItems] at hr ⊢
    obtain ⟨v, hv, hrest⟩ := bind_eq_ok_iff.mp hr
    refine bind_eq_ok_iff.mpr ⟨v, hv, ?_⟩
    cases hothers : rest.ofItems title size (index + 1) (before ++ d :: behind) with
    | error e => simp [hothers, Except.map] at hrest
    | ok p =>
      rw [hothers] at hrest
      rw [Fields.ofItems_replace h before hplace hothers]
      exact hrest

/-- What stands in a list for a field is read as the value that the field holds. -/
theorem Shape.ofDoc_headD {s : Shape} {optional : Bool} {ds : List Doc} {v : s.Value}
    (h : s.Holds optional ds v) : s.ofDoc (ds.headD s.placeholder) = .ok v := by
  match ds, h with
  | [d], hone => exact hone
  | [], hnone =>
    have hdefault : s.inObject optional = some v := hnone
    cases s with
    | nullable s =>
      have hv : v = none := by
        cases optional <;> exact (Option.some.inj hdefault).symm
      rw [hv]
      rfl
    | list s =>
      cases optional with
      | true =>
        rw [← Option.some.inj hdefault]
        rfl
      | false => exact absurd hdefault (by simp [Shape.inObject, Shape.whenMissing])
    | _ =>
      cases optional <;>
        exact absurd hdefault (by simp [Shape.inObject, Shape.whenMissing, Shape.byDefault])

/-- The list of the fields is read as the fields, and nothing is left. -/
theorem Fields.ofItems_inOrder {ms : List Member} {title : Text} {size : Nat} :
    {fs : Fields} → {vs : fs.Values} → {index : Nat} → fs.Holds ms vs →
    fs.ofItems title size index (fs.inOrder ms) = .ok (vs, [])
  | .nil, (), _, _ => rfl
  | .cons key optional s rest, (v, vs), index, ⟨hfirst, hothers⟩ => by
    simp only [Fields.inOrder, Fields.ofItems]
    refine bind_eq_ok_iff.mpr ⟨v, Shape.ofDoc_headD hfirst, ?_⟩
    rw [Fields.ofItems_inOrder hothers]
    rfl

/-! ## Reading what was rearranged -/

/-- **What is read as some data is read as the same data after rearranging it.** -/
theorem Rearranged.ofDoc_eq {s : Shape} {d d' : Doc} (h : Rearranged s d d')
    (hsound : s.isSound = true) : ∀ v, s.ofDoc d = .ok v → s.ofDoc d' = .ok v := by
  -- The induction is on the ways to rearrange; whatever is inside is read at its own shape.
  induction h with
  | refl => exact fun v hv => hv
  | trans _ _ ih ih' => exact fun v hv => ih' hsound v (ih hsound v hv)
  | @nullable s d d' h ih =>
    simp only [Shape.isSound, Bool.and_eq_true] at hsound
    intro v hv
    by_cases hnull : d = .null
    · rw [h.null_iff.mp hnull, ← hnull]
      exact hv
    · rw [Shape.ofDoc_nullable hnull] at hv
      rw [Shape.ofDoc_nullable (mt h.null_iff.mpr hnull)]
      cases hvalue : s.ofDoc d with
      | error e => simp [hvalue, Except.map] at hv
      | ok x =>
        rw [hvalue] at hv
        rw [ih hsound.2 x hvalue]
        exact hv
  | item before behind h ih => exact fun v hv => mapM_replace (ih hsound) hv
  | member before behind hkey hk h ih =>
    have hread := ih (Fields.isSound_of_shapeOf? hsound hk)
    exact fun vs hvs => Fields.ofObject_replace (Fields.nodup_keys hsound) hkey hk hread hvs
  | place before behind hplace h ih =>
    have hread := ih (Fields.isSound_of_shapeAt? hsound hplace)
    intro vs hvs
    obtain ⟨p, hitems, hend⟩ := bind_eq_ok_iff.mp hvs
    exact bind_eq_ok_iff.mpr ⟨p, Fields.ofItems_replace hread before hplace hitems, hend⟩
  | reorder h => exact fun vs hvs => Fields.ofObject_perm (Fields.nodup_keys hsound) h hvs
  | insert d before behind hkey hk =>
    exact fun vs hvs => Fields.ofObject_insert (Fields.nodup_keys hsound) d hkey hk hvs
  | listed ms =>
    intro vs hvs
    obtain ⟨-, hholds⟩ := (Fields.ofObject_eq_ok_iff (Fields.nodup_keys hsound)).mp hvs
    exact bind_eq_ok_iff.mpr ⟨(vs, []), Fields.ofItems_inOrder hholds, rfl⟩

/-- **Key order, unknown keys and list form do not matter.** A text that is decoded as a value of a
record type and any text of the same value rearranged, at whatever depth, are decoded alike. -/
theorem Form.decode_rearranged {α : Type} {f : Form α} (hf : f.IsRecord) {d d' : Doc} {t t' : Text}
    (ht : d.IsIn t) (ht' : d'.IsIn t') (h : Rearranged f.shape d d') {a : α}
    (ha : f.decode (.ofBytes (Text.utf8 t)) = .ok a) :
    f.decode (.ofBytes (Text.utf8 t')) = .ok a := by
  have hread := h.ofDoc_eq hf.isSound
  unfold decode at ha ⊢
  rw [Shape.decode_eq_ofDoc _ ht] at ha
  rw [Shape.decode_eq_ofDoc _ ht']
  cases hdata : f.shape.ofDoc d with
  | error e => simp [hdata, Except.map] at ha
  | ok v =>
    rw [hdata] at ha
    rw [hread v hdata]
    exact ha

/-- A group in a document is an object, and then a list; its members stand in another order, and one
comes in whose key no field has and whose value holds half a character and a number that is larger
than all doubles. -/
theorem Form.decode_rearranged_group :
    let key (t : Text) (h : ∀ c ∈ t, 0x20 ≤ c.toNat ∧ c ≠ '"' ∧ c ≠ '\\') := Literal.ofPlain t h
    let text (t : Text) (h : ∀ c ∈ t, 0x20 ≤ c.toNat ∧ c ≠ '"' ∧ c ≠ '\\') := Doc.text (key t h)
    let half : Literal :=
      [.code ⟨'d', by decide⟩ ⟨'8', by decide⟩ ⟨'0', by decide⟩ ⟨'0', by decide⟩]
    let huge : NumberLiteral :=
      ⟨false, ⟨Text.numeral 1, Text.isNumeral_numeral 1⟩, none,
        some ⟨⟨'E', .inr rfl⟩, none, ⟨"999", by decide⟩⟩⟩
    let countries : Member := (key "countries" (by decide), .array [])
    let groups (d : Doc) : Member := (key "groups" (by decide), .array [d])
    let note : Member := (key "note" (by decide), .array [.text half, .number huge])
    let group : List Member := [(key "type" (by decide), text "union" (by decide)),
      (key "id" (by decide), text "EU" (by decide)),
      (key "name" (by decide), text "European Union" (by decide))]
    let listed : List Doc := [text "EU" (by decide), text "European Union" (by decide),
      text "union" (by decide), .null, .array []]
    let d : Doc := .object [countries, groups (.object group)]
    let d' : Doc := .object [groups (.array listed), note, countries]
    let document : Document :=
      { countries := [], groups := [{ id := "EU", name := "European Union", kind := "union" }] }
    Document.form.decode (.ofBytes (Text.utf8 d.compact)) = .ok document
      ∧ Rearranged Document.form.shape d d'
      ∧ Document.form.decode (.ofBytes (Text.utf8 d'.compact)) = .ok document := by
  intro key text half huge countries groups note group listed d d' document
  have hread : Document.form.decode (.ofBytes (Text.utf8 d.compact)) = .ok document := by
    rw [decode, Shape.decode_eq_ofDoc _ d.isIn_compact]
    rfl
  have hlisted : Rearranged Document.form.shape d (.object [countries, groups (.array listed)]) := by
    refine .member [countries] [] rfl rfl ?_
    exact .item [] [] (.listed group)
  have hrearranged : Rearranged Document.form.shape d d' :=
    hlisted.trans (.trans (.reorder (List.Perm.swap _ _ _))
      (.insert _ [_] [_] (k := "note") rfl (by decide)))
  exact ⟨hread, hrearranged,
    Form.decode_rearranged .document d.isIn_compact d'.isIn_compact hrearranged hread⟩

end Gazetteer.Json
