/-
# Gazetteer.Proofs.Json.Faults -- missing and repeated fields

Where all members of an object are well typed, two things can still be wrong with it: a known key
occurs twice, or a required field is missing. `Fields.fault?` says which of them is told. Keys that
are repeated come first, and the one is told of whose second occurrence comes first in the text; of
the missing fields it is the first one among the fields.

Reading goes through the members with the fields that they filled so far. One member either repeats a
known key or leaves the fields as they must be behind it (`Fields.ofMember_repeated`,
`Fields.exists_ofMember`), and so do all members, one by one (`Fields.gather_wellTyped`).

The first fault in a document is the fault of the document: `Shape.Reaches` leads to a value such that
nothing in front of it is wrong.
-/
import Gazetteer.Dataset.Loading
import Gazetteer.Proofs.Json.Records

namespace Gazetteer.Json

/-! ## What can be wrong with well-typed members -/

/-- The key means a text, and the value of a known key is read as data of its field. -/
def Fields.TypesMember (fs : Fields) (m : Member) : Prop :=
  ∃ k, m.1.text? = some k ∧ ∀ s, fs.shapeOf? k = some s → ∃ v, s.ofDoc m.2 = .ok v

/-- All members are well typed. -/
def Fields.WellTyped (fs : Fields) (ms : List Member) : Prop := ∀ m ∈ ms, fs.TypesMember m

/-- The first known key that occurred before, behind some keys that were seen. -/
def repeated? (known seen : List Text) : List Text → Option Text
  | [] => none
  | k :: ks =>
    if known.contains k && seen.contains k then some k else repeated? known (seen ++ [k]) ks

/-- The keys of the fields that may not be missing from an object. -/
def Fields.required : Fields → List Text
  | .nil => []
  | .cons key optional s rest =>
    if (s.inObject optional).isNone then key :: rest.required else rest.required

/-- The first required field that is missing. -/
def Fields.missing? (fs : Fields) (ms : List Member) : Option Text :=
  fs.required.find? fun k => !(keysOf ms).contains k

/-- What is wrong with members that are well typed: a known key is repeated, or else a required
field is missing. -/
def Fields.fault? (fs : Fields) (ms : List Member) : Option Mismatch :=
  match repeated? fs.keys [] (keysOf ms) with
  | some k => some (.duplicateField k)
  | none => (fs.missing? ms).map .missingField

/-! ## One member -/

variable {fs : Fields} {k : Text} {d : Doc}

/-- A member with a key that no field has is passed over. -/
theorem Fields.ofMember_unknown : {fs : Fields} → {state : fs.Partial} → k ∉ fs.keys →
    fs.ofMember k d state = .ok state
  | .nil, _, _ => rfl
  | .cons key _ s rest, (v, vs), hk => by
    rw [Fields.keys, List.mem_cons, not_or] at hk
    rw [Fields.ofMember, if_neg hk.1, Fields.ofMember_unknown hk.2]
    rfl

/-- The field of a key that was seen is filled, and no other is. -/
theorem Shape.isSome_of_fills {s : Shape} {ms : List Member} {v : Option s.Value}
    (h : s.Fills (valuesAt k ms) none v) : v.isSome = true ↔ k ∈ keysOf ms := by
  have hnil : valuesAt k ms = [] ↔ k ∉ keysOf ms := valuesAt_eq_nil_iff
  rcases Shape.fills_none_iff.mp h with ⟨hds, rfl⟩ | ⟨d, x, hds, -, rfl⟩
  · exact iff_of_false (by simp) (hnil.mp hds)
  · refine iff_of_true rfl (Decidable.not_not.mp (mt hnil.mpr ?_))
    rw [hds]
    exact List.cons_ne_nil d []

/-- A known key that was seen before is refused. -/
theorem Fields.ofMember_repeated {ms : List Member} (hseen : k ∈ keysOf ms) :
    {fs : Fields} → {state : fs.Partial} → k ∈ fs.keys → fs.Gathers ms fs.start state →
    fs.ofMember k d state = .error (.mismatch (.duplicateField k))
  | .cons key _ s rest, (v, vs), hk, ⟨hfills, hothers⟩ => by
    rw [Fields.ofMember]
    by_cases heq : k = key
    · subst heq
      have hv : v.isSome = true := (Shape.isSome_of_fills hfills).mpr hseen
      rw [if_pos rfl, if_pos hv]
    · have hrest : k ∈ rest.keys := (List.mem_cons.mp hk).resolve_left heq
      rw [if_neg heq, Fields.ofMember_repeated hseen hrest hothers]
      rfl

/-- A known key that is new puts its value into its field, if the value can be read. -/
theorem Fields.ofMember_fresh {ms : List Member} {s : Shape} (hfresh : k ∉ keysOf ms) :
    {fs : Fields} → {state : fs.Partial} → fs.shapeOf? k = some s → fs.Gathers ms fs.start state →
    ∃ put : s.Value → fs.Partial, fs.ofMember k d state = (s.ofDoc d).map put
  | .cons key _ s' rest, (v, vs), hk, ⟨hfills, hothers⟩ => by
    rw [Fields.shapeOf?] at hk
    rw [Fields.ofMember]
    by_cases heq : k = key
    · subst heq
      rw [if_pos rfl] at hk
      obtain rfl := Option.some.inj hk
      have hv : ¬ v.isSome = true := mt (Shape.isSome_of_fills hfills).mp hfresh
      rw [if_pos rfl, if_neg hv]
      exact ⟨fun x => (some x, vs), rfl⟩
    · rw [if_neg heq] at hk
      obtain ⟨put, hput⟩ := Fields.ofMember_fresh hfresh hk hothers
      refine ⟨fun x => (v, put x), ?_⟩
      rw [if_neg heq, hput]
      cases s.ofDoc d <;> rfl

/-- A well-typed member that repeats no known key is taken. -/
theorem Fields.exists_ofMember {ms : List Member} {state : fs.Partial}
    (hgathers : fs.Gathers ms fs.start state) (hnew : ¬ (k ∈ fs.keys ∧ k ∈ keysOf ms))
    (hread : ∀ s, fs.shapeOf? k = some s → ∃ v, s.ofDoc d = .ok v) :
    ∃ state', fs.ofMember k d state = .ok state' := by
  by_cases hk : k ∈ fs.keys
  · obtain ⟨s, hs⟩ := Option.isSome_iff_exists.mp (shapeOf?_isSome.mpr hk)
    obtain ⟨v, hv⟩ := hread s hs
    obtain ⟨put, hput⟩ := ofMember_fresh (d := d) (fun hseen => hnew ⟨hk, hseen⟩) hs hgathers
    exact ⟨put v, by rw [hput, hv]; rfl⟩
  · exact ⟨state, ofMember_unknown hk⟩

/-! ## All members -/

/-- No member was taken yet. -/
theorem Fields.gathers_start : fs.Gathers [] fs.start fs.start := gathers_nil.mpr rfl

theorem repeated?_of_mem {known seen ks : List Text} (hknown : k ∈ known) (hseen : k ∈ seen) :
    repeated? known seen (k :: ks) = some k := by
  rw [repeated?, if_pos (by simp [hknown, hseen])]

theorem repeated?_of_new {known seen ks : List Text} (h : ¬ (k ∈ known ∧ k ∈ seen)) :
    repeated? known seen (k :: ks) = repeated? known (seen ++ [k]) ks := by
  rw [repeated?, if_neg (by simpa using h)]

/-- The key that comes again first is not the one that came first; unknown keys may come again. -/
example : repeated? ["name", "code"] [] ["name", "note", "code", "note", "code", "name"]
    = some "code" := by decide

/-- **Taking well-typed members** stops at the first known key that is repeated, and at nothing
else. -/
theorem Fields.gather_wellTyped (hkeys : fs.keys.Nodup) {before ms : List Member}
    {state : fs.Partial} (hbefore : fs.Gathers before fs.start state) (htyped : fs.WellTyped ms) :
    (∀ k, repeated? fs.keys (keysOf before) (keysOf ms) = some k →
        fs.gather ms state = .error (.mismatch (.duplicateField k)))
      ∧ (repeated? fs.keys (keysOf before) (keysOf ms) = none →
        ∃ state', fs.gather ms state = .ok state' ∧ fs.Gathers (before ++ ms) fs.start state') := by
  induction ms generalizing before state with
  | nil =>
    refine ⟨fun k hk => absurd hk (by simp [repeated?, keysOf]), fun _ => ⟨state, rfl, ?_⟩⟩
    rwa [List.append_nil]
  | cons m ms ih =>
    obtain ⟨⟨k, hkey, hread⟩, hothers⟩ := List.forall_mem_cons.mp htyped
    have hkeysOf : keysOf (m :: ms) = k :: keysOf ms := List.filterMap_cons_some hkey
    have hgather : fs.gather (m :: ms) state
        = fs.ofMember k m.2 state >>= fun state => fs.gather ms state := by
      rw [gather_cons, read_eq_ok_iff.mpr hkey]
      rfl
    rw [hkeysOf, hgather]
    by_cases hold : k ∈ fs.keys ∧ k ∈ keysOf before
    · rw [repeated?_of_mem hold.1 hold.2, ofMember_repeated hold.2 hold.1 hbefore]
      refine ⟨fun k' hk' => ?_, fun hnone => absurd hnone (by simp)⟩
      rw [← Option.some.inj hk']
      rfl
    · obtain ⟨between, hstep⟩ := exists_ofMember hbefore hold hread
      have hbetween : fs.Gathers (before ++ [m]) fs.start between :=
        gathers_append.mpr ⟨state, hbefore, (ofMember_iff hkey hkeys).mp hstep⟩
      have hseen : keysOf (before ++ [m]) = keysOf before ++ [k] := by
        rw [keysOf_append]
        congr 1
        exact List.filterMap_cons_some hkey
      have hrest := ih hbetween hothers
      rw [hseen, List.append_assoc] at hrest
      rw [repeated?_of_new hold, hstep]
      exact hrest

/-- A first field that is required and missing. -/
theorem Fields.missing?_cons_self {key : Text} {optional : Bool} {s : Shape} {rest : Fields}
    {ms : List Member} (hrequired : s.inObject optional = none) (hmissing : key ∉ keysOf ms) :
    (Fields.cons key optional s rest).missing? ms = some key := by
  rw [missing?, required, hrequired, if_pos Option.isNone_none]
  exact List.find?_cons_of_pos (by simpa using hmissing)

/-- A first field that is not required or not missing. -/
theorem Fields.missing?_cons_rest {key : Text} {optional : Bool} {s : Shape} {rest : Fields}
    {ms : List Member} (h : ¬ (s.inObject optional = none ∧ key ∉ keysOf ms)) :
    (Fields.cons key optional s rest).missing? ms = rest.missing? ms := by
  rw [missing?, required]
  by_cases hrequired : s.inObject optional = none
  · have hseen : key ∈ keysOf ms := Decidable.not_not.mp fun hk => h ⟨hrequired, hk⟩
    rw [hrequired, if_pos Option.isNone_none, List.find?_cons_of_neg (by simpa using hseen),
      missing?]
  · rw [if_neg (by simpa using hrequired), missing?]

/-- The record is complete if no required field is missing, and the first of those is told of. -/
theorem Fields.complete_missing {ms : List Member} :
    {fs : Fields} → {state : fs.Partial} → fs.Gathers ms fs.start state →
    (∀ k, fs.missing? ms = some k → fs.complete state = .error (.missingField k))
      ∧ (fs.missing? ms = none → ∃ vs, fs.complete state = .ok vs)
  | .nil, (), _ => by
    have hnone : Fields.nil.missing? ms = none := rfl
    exact ⟨fun k hk => absurd (hnone.symm.trans hk) (by simp), fun _ => ⟨(), rfl⟩⟩
  | .cons key optional s rest, (v, vs), ⟨hfills, hothers⟩ => by
    obtain ⟨hmissing, hcomplete⟩ := Fields.complete_missing hothers
    have hv : v = none ↔ key ∉ keysOf ms := by
      rw [← Shape.isSome_of_fills hfills]
      cases v <;> simp
    have hvalue : (v <|> s.inObject optional) = none
        ↔ s.inObject optional = none ∧ key ∉ keysOf ms := by
      rw [← hv]
      cases v <;> simp
    rw [Fields.complete]
    cases hfirst : (v <|> s.inObject optional) with
    | none =>
      have hlack := hvalue.mp hfirst
      rw [Fields.missing?_cons_self hlack.1 hlack.2]
      refine ⟨fun k hk => ?_, fun hnone => absurd hnone (by simp)⟩
      rw [← Option.some.inj hk]
    | some x =>
      rw [Fields.missing?_cons_rest (mt hvalue.mpr (by simp [hfirst]))]
      refine ⟨fun k hk => ?_, fun hnone => ?_⟩
      · rw [hmissing k hk]
      · obtain ⟨xs, hxs⟩ := hcomplete hnone
        exact ⟨(x, xs), by rw [hxs]⟩

/-- **What an object with well-typed members is read as**: the fault that `Fields.fault?` tells, or
else a record. -/
theorem Fields.ofObject_wellTyped (hkeys : fs.keys.Nodup) {ms : List Member}
    (htyped : fs.WellTyped ms) :
    (∀ m, fs.fault? ms = some m → fs.ofObject ms = .error (.mismatch m))
      ∧ (fs.fault? ms = none → ∃ vs, fs.ofObject ms = .ok vs) := by
  obtain ⟨hrepeated, htaken⟩ := gather_wellTyped hkeys gathers_start htyped
  have hseen : keysOf [] = [] := rfl
  rw [hseen] at hrepeated htaken
  rw [fault?, ofObject]
  cases hrepeat : repeated? fs.keys [] (keysOf ms) with
  | some k =>
    rw [hrepeated k hrepeat]
    refine ⟨fun m hm => ?_, fun hnone => absurd hnone (by simp)⟩
    rw [← Option.some.inj hm]
    rfl
  | none =>
    obtain ⟨state, hgather, hgathers⟩ := htaken hrepeat
    obtain ⟨hmissing, hcomplete⟩ := complete_missing hgathers
    rw [List.nil_append] at hmissing hcomplete
    simp only [hgather, bind, Except.bind]
    cases hlack : fs.missing? ms with
    | some k =>
      rw [hmissing k hlack]
      refine ⟨fun m hm => ?_, fun hnone => absurd hnone (by simp)⟩
      rw [← Option.some.inj hm]
    | none =>
      obtain ⟨vs, hvs⟩ := hcomplete hlack
      rw [hvs]
      exact ⟨fun m hm => absurd hm (by simp), fun _ => ⟨vs, rfl⟩⟩

/-! ## The first fault of a value -/

/-- A value inside of another one, such that nothing in front of it is wrong. -/
inductive Shape.Reaches : Shape → Doc → Shape → Doc → Prop where
  | here (s : Shape) (d : Doc) : Reaches s d s d
  /-- A value of a shape that may be null. -/
  | nullable {s s' : Shape} {d d' : Doc} (hnull : d ≠ .null) (h : Reaches s d s' d') :
    Reaches (.nullable s) d s' d'
  /-- An item of a list. -/
  | item {s s' : Shape} {d d' : Doc} {before : List Doc} (behind : List Doc)
    (hbefore : ∀ x ∈ before, ∃ v, s.ofDoc x = .ok v) (h : Reaches s d s' d') :
    Reaches (.list s) (.array (before ++ d :: behind)) s' d'
  /-- A field of a record that is an object. -/
  | member {title k : Text} {fields : Fields} {key : Literal} {s s' : Shape} {d d' : Doc}
    {before : List Member} (behind : List Member) (htyped : fields.WellTyped before)
    (hnone : repeated? fields.keys [] (keysOf before) = none) (hkey : key.text? = some k)
    (hfresh : k ∉ keysOf before) (hk : fields.shapeOf? k = some s) (h : Reaches s d s' d') :
    Reaches (.record title fields) (.object (before ++ (key, d) :: behind)) s' d'
  /-- A field of a record that is a list. -/
  | place {title : Text} {fields : Fields} {s s' : Shape} {d d' : Doc} {before : List Doc}
    (behind : List Doc)
    (hbefore : ∀ i x, before[i]? = some x → ∀ s, fields.shapeAt? i = some s → ∃ v, s.ofDoc x = .ok v)
    (hplace : fields.shapeAt? before.length = some s) (h : Reaches s d s' d') :
    Reaches (.record title fields) (.array (before ++ d :: behind)) s' d'

/-- The first item that cannot be read is told of. -/
theorem mapM_fault {α : Type} {f : Doc → Except Fault α} {before behind : List Doc} {e : Fault}
    (hbefore : ∀ x ∈ before, ∃ v, f x = .ok v) (h : f d = .error e) :
    (before ++ d :: behind).mapM f = .error e := by
  induction before with
  | nil =>
    rw [List.nil_append, List.mapM_cons, h]
    rfl
  | cons x before ih =>
    obtain ⟨⟨v, hv⟩, hothers⟩ := List.forall_mem_cons.mp hbefore
    rw [List.cons_append, List.mapM_cons, hv, ih hothers]
    rfl

/-- A fault in a field of an object, behind members that are taken. -/
theorem Fields.ofObject_fault (hkeys : fs.keys.Nodup) {before behind : List Member} {key : Literal}
    {s : Shape} {e : Fault} (htyped : fs.WellTyped before)
    (hnone : repeated? fs.keys [] (keysOf before) = none) (hkey : key.text? = some k)
    (hfresh : k ∉ keysOf before) (hk : fs.shapeOf? k = some s) (h : s.ofDoc d = .error e) :
    fs.ofObject (before ++ (key, d) :: behind) = .error e := by
  obtain ⟨-, htaken⟩ := gather_wellTyped hkeys gathers_start htyped
  obtain ⟨state, hgather, hgathers⟩ := htaken hnone
  rw [List.nil_append] at hgathers
  obtain ⟨put, hput⟩ := ofMember_fresh (d := d) hfresh hk hgathers
  rw [ofObject, gather_append, hgather]
  show (fs.gather ((key, d) :: behind) state >>= _) = _
  rw [gather_cons, read_eq_ok_iff.mpr hkey]
  show ((fs.ofMember k d state >>= _) >>= _) = _
  rw [hput, h]
  rfl

/-- A fault in a field of a list, behind items that are read. -/
theorem Fields.ofItems_fault {title : Text} {size : Nat} {behind : List Doc} {s : Shape} {e : Fault}
    (h : s.ofDoc d = .error e) : {fs : Fields} → {index : Nat} → {before : List Doc} →
    (∀ i x, before[i]? = some x → ∀ s, fs.shapeAt? i = some s → ∃ v, s.ofDoc x = .ok v) →
    fs.shapeAt? before.length = some s →
    fs.ofItems title size index (before ++ d :: behind) = .error e
  | .cons _ _ s' rest, index, [], _, hplace => by
    obtain rfl := Option.some.inj hplace
    simp only [List.nil_append, Fields.ofItems, h]
    rfl
  | .cons _ _ s' rest, index, x :: before, hbefore, hplace => by
    obtain ⟨v, hv⟩ := hbefore 0 x rfl s' rfl
    have hrest : rest.ofItems title size (index + 1) (before ++ d :: behind) = .error e :=
      Fields.ofItems_fault h (fun i => hbefore (i + 1)) hplace
    simp only [List.cons_append, Fields.ofItems, hv, hrest]
    rfl

theorem Shape.Reaches.isSound {s s' : Shape} {d d' : Doc} (h : s.Reaches d s' d')
    (hsound : s.isSound = true) : s'.isSound = true := by
  induction h with
  | here => exact hsound
  | nullable _ _ ih =>
    simp only [Shape.isSound, Bool.and_eq_true] at hsound
    exact ih hsound.2
  | item _ _ _ ih => exact ih hsound
  | member _ _ _ _ _ hk _ ih => exact ih (Fields.isSound_of_shapeOf? hsound hk)
  | place _ _ hplace _ ih => exact ih (Fields.isSound_of_shapeAt? hsound hplace)

/-- **The first fault in a value is the fault of the value.** -/
theorem Shape.Reaches.ofDoc_error {s s' : Shape} {d d' : Doc} (h : s.Reaches d s' d')
    (hsound : s.isSound = true) {e : Fault} (he : s'.ofDoc d' = .error e) :
    s.ofDoc d = .error e := by
  induction h with
  | here => exact he
  | nullable hnull _ ih =>
    simp only [Shape.isSound, Bool.and_eq_true] at hsound
    rw [Shape.ofDoc_nullable hnull, ih hsound.2 he]
    rfl
  | item behind hbefore _ ih => exact mapM_fault hbefore (ih hsound he)
  | member behind htyped hnone hkey hfresh hk _ ih =>
    have hvalue := ih (Fields.isSound_of_shapeOf? hsound hk) he
    exact Fields.ofObject_fault (Fields.nodup_keys hsound) htyped hnone hkey hfresh hk hvalue
  | @place title fields s s' d d' before behind hbefore hplace _ ih =>
    have hvalue := ih (Fields.isSound_of_shapeAt? hsound hplace) he
    show (fields.ofItems title fields.size 0 (before ++ d :: behind) >>= _) = _
    rw [Fields.ofItems_fault hvalue hbefore hplace]
    rfl

/-! ## The record types -/

theorem Form.decode_error {α : Type} {f : Form α} {d : Doc} {t : Text} {e : Fault} (ht : d.IsIn t)
    (h : f.shape.ofDoc d = .error e) : f.decode (.ofBytes (Text.utf8 t)) = .error e := by
  rw [decode, Shape.decode_eq_ofDoc _ ht, h]
  rfl

/-- **Missing and repeated fields are reported precisely.** For a record type and an object whose
members are well typed, decoding fails with the fault that `Fields.fault?` tells: with the known key
whose second occurrence comes first, or, if no known key is repeated, with the first required field
that is missing. So does loading a document in which nothing is wrong in front of such an object. -/
theorem Form.decode_fault {α : Type} {f : Form α} (hf : f.IsRecord) {title : Text} {fields : Fields}
    (hshape : f.shape = .record title fields) {ms : List Member} (htyped : fields.WellTyped ms)
    {m : Mismatch} (hm : fields.fault? ms = some m) :
    (∀ t, (Doc.object ms).IsIn t → f.decode (.ofBytes (Text.utf8 t)) = .error (.mismatch m))
      ∧ (∀ d t, Document.form.shape.Reaches d f.shape (.object ms) → d.IsIn t →
        Dataset.ofText t = .error (.unreadable (.mismatch m)))
      ∧ (LoadError.unreadable (.mismatch m)).message = "JSON error: " ++ m.message
      ∧ (∀ k, m = .missingField k → m.message = "missing field `" ++ k ++ "`")
      ∧ (∀ k, m = .duplicateField k → m.message = "duplicate field `" ++ k ++ "`") := by
  have hkeys : fields.keys.Nodup := by
    have hsound := hf.isSound
    rw [hshape] at hsound
    exact Fields.nodup_keys hsound
  have hread : f.shape.ofDoc (.object ms) = .error (.mismatch m) := by
    rw [hshape, Shape.ofDoc_object]
    exact (Fields.ofObject_wellTyped hkeys htyped).1 m hm
  refine ⟨fun t ht => Form.decode_error ht hread, fun d t hreaches ht => ?_, rfl, ?_, ?_⟩
  · have hdocument := hreaches.ofDoc_error Form.IsRecord.document.isSound hread
    rw [Dataset.ofText, Dataset.ofStream, Form.decode_error ht hdocument]
  · rintro k rfl
    rfl
  · rintro k rfl
    rfl

/-- A country in a document that lacks a field, and one that repeats a key behind which a field is
missing; both hold a member that is not known. -/
theorem Form.decode_fault_countries :
    let key (t : Text) (h : ∀ c ∈ t, 0x20 ≤ c.toNat ∧ c ≠ '"' ∧ c ≠ '\\') := Literal.ofPlain t h
    let name : Member := (key "name" (by decide), .text (key "Switzerland" (by decide)))
    let code : Member := (key "alpha2" (by decide), .text (key "CH" (by decide)))
    let note : Member := (key "note" (by decide), .array [.null])
    let document (ms : List Member) : Doc :=
      .object [note, (key "countries" (by decide), .array [.object ms])]
    let lacking : List Member := [name, note, code]
    let repeating : List Member := [name, code, note, code, name]
    (Country.entryForm.decode (.ofBytes (Text.utf8 (Doc.object lacking).compact))
          = .error (.mismatch (.missingField "alpha3"))
        ∧ Dataset.ofText (document lacking).compact
          = .error (.unreadable (.mismatch (.missingField "alpha3"))))
      ∧ Country.entryForm.decode (.ofBytes (Text.utf8 (Doc.object repeating).compact))
          = .error (.mismatch (.duplicateField "alpha2"))
        ∧ Dataset.ofText (document repeating).compact
          = .error (.unreadable (.mismatch (.duplicateField "alpha2"))) := by
  intro key name code note document lacking repeating
  have hknown : ∀ {m : Member} {k : Text}, m.1.text? = some k →
      (Country.row true).fields.shapeOf? k = some .text → (∃ v, m.2.asText .text = .ok v) →
      (Country.row true).fields.TypesMember m := by
    intro m k hkey hk hread
    refine ⟨k, hkey, fun s hs => ?_⟩
    obtain rfl := Option.some.inj (hk.symm.trans hs)
    exact hread
  have hname : (Country.row true).fields.TypesMember name := hknown rfl rfl ⟨_, rfl⟩
  have hcode : (Country.row true).fields.TypesMember code := hknown rfl rfl ⟨_, rfl⟩
  have hnote : (Country.row true).fields.TypesMember note := ⟨"note", rfl, nofun⟩
  have hlackingTyped : (Country.row true).fields.WellTyped lacking := by
    simp [Fields.WellTyped, lacking, hname, hcode, hnote]
  have hlackingFault : (Country.row true).fields.fault? lacking = some (.missingField "alpha3") := by
    decide
  have hrepeatingTyped : (Country.row true).fields.WellTyped repeating := by
    simp [Fields.WellTyped, repeating, hname, hcode, hnote]
  have hrepeatingFault : (Country.row true).fields.fault? repeating
      = some (.duplicateField "alpha2") := by
    decide
  have hreaches : ∀ ms, Document.form.shape.Reaches (document ms) Country.entryForm.shape
      (.object ms) := by
    intro ms
    refine @Shape.Reaches.member _ _ _ _ _ _ _ _ [note] [] ?typed rfl rfl (by decide) rfl
      (@Shape.Reaches.item _ _ _ _ [] [] (by simp) (.here _ _))
    intro m hm
    obtain rfl := List.mem_singleton.mp hm
    exact ⟨"note", rfl, nofun⟩
  obtain ⟨hlacking, hlackingLoad, -⟩ :=
    Form.decode_fault .countryEntry rfl hlackingTyped hlackingFault
  obtain ⟨hrepeating, hrepeatingLoad, -⟩ :=
    Form.decode_fault .countryEntry rfl hrepeatingTyped hrepeatingFault
  exact ⟨⟨hlacking _ (Doc.isIn_compact _), hlackingLoad _ _ (hreaches _) (Doc.isIn_compact _)⟩,
    hrepeating _ (Doc.isIn_compact _), hrepeatingLoad _ _ (hreaches _) (Doc.isIn_compact _)⟩

end Gazetteer.Json
