/-
# Gazetteer.Proofs.Json.RoundTrip -- what is written is read back

The data of a shape is read back from every spelling of the value it is written as, be it compact,
laid out over lines or spaced in any other way. Three things could stand in the way, and a sound
shape excludes them: two labels of one name, two fields of one key, and a null inside a null. Counts
must fit into sixty-four bits, since reading takes no larger ones.

The members of a record are read in the order of the text. What matters is only which keys were read
already: `Fields.holding` is the record as far as some keys go, and a member takes it one key
further.
-/
import Gazetteer.Json.Form
import Gazetteer.Proofs.Json.Listing

namespace Gazetteer.Json

open scoped Powers

open Storage (Ending)
open Text (utf8 numeral isDigit_of_mem_numeral)

/-! ## Sound shapes -/

/-- Whether null is one of the values of a shape. -/
def Shape.isNullable : Shape → Bool
  | .nullable _ => true
  | _ => false

/-- The keys of the fields. -/
def Fields.keys : Fields → List Text
  | .nil => []
  | .cons key _ _ rest => key :: rest.keys

mutual

/-- Labels have different names, fields have different keys, and no null is inside a null. -/
def Shape.isSound : Shape → Bool
  | .text => true
  | .boolean => true
  | .count => true
  | .nullable s => !s.isNullable && s.isSound
  | .list s => s.isSound
  | .label labels => decide labels.Nodup
  | .record _ fields => fields.isSound

/-- The shapes of all fields are sound, and the fields have different keys. -/
def Fields.isSound : Fields → Bool
  | .nil => true
  | .cons key _ s rest => !rest.keys.contains key && s.isSound && rest.isSound

end

mutual

/-- All counts in the data fit into sixty-four bits. -/
def Shape.Fits : (s : Shape) → s.Value → Prop
  | .text, _ => True
  | .boolean, _ => True
  | .count, (n : Nat) => n < 2 ^ (64 : Nat)
  | .nullable s, v => ∀ x, v = some x → s.Fits x
  | .list s, vs => ∀ v, List.Mem v vs → s.Fits v
  | .label _, _ => True
  | .record _ fields, vs => fields.Fit vs

/-- All counts in the fields fit into sixty-four bits. -/
def Fields.Fit : (fs : Fields) → fs.Values → Prop
  | .nil, _ => True
  | .cons _ _ s rest, vs => s.Fits vs.1 ∧ rest.Fit vs.2

end

/-! ## Plain data -/

theorem readWord_reads (expected : Expected) {t u w : Text} (hu : Spells (.text t) u)
    (hw : IsSpace w) : Reads (readWord expected) (w ++ u) t := by
  cases hu with
  | text t =>
    refine (Reader.token_bind_takes hw (by decide) ?_).reads
    rw [if_pos rfl]
    exact (Reader.advance_takes (by decide)).bind (s := ['"']) (quotedText_takes t)

theorem readBoolean_reads {b : Bool} {u w : Text} (hu : Spells (.boolean b) u) (hw : IsSpace w) :
    Reads readBoolean (w ++ u) b := by
  have hdone : ∀ b : Bool, Takes (pure b : Reader Bool) [] b := fun b ending rest => rfl
  cases hu with
  | boolean b =>
    cases b with
    | true =>
      refine (Reader.token_bind_takes (c := 't') (t := "rue") hw (by decide) ?_).reads
      rw [if_pos rfl]
      exact (Reader.word_takes (t := "true") (by decide)).bind (hdone true)
    | false =>
      refine (Reader.token_bind_takes (c := 'f') (t := "alse") hw (by decide) ?_).reads
      rw [if_neg (by decide), if_pos rfl]
      exact (Reader.word_takes (t := "false") (by decide)).bind (hdone false)

theorem readCount_reads {n : Nat} (hn : n < 2 ^ (64 : Nat)) {u w : Text} (hu : Spells (.number n) u)
    (hw : IsSpace w) : Reads readCount (w ++ u) n := by
  cases hu with
  | number n =>
    obtain ⟨c, t, hcons, hsign, -, -⟩ := (Spells.number n).sign
    have hc : c.isDigit = true := isDigit_of_mem_numeral (n := n) (by simp [hcons])
    have hminus : c ≠ '-' := by
      rintro rfl
      exact absurd hc (by decide)
    rw [hcons]
    refine Reader.token_bind_reads hw hsign ?_
    rw [if_neg hminus, if_pos hc, ← hcons]
    intro ending rest hstop
    rw [Reader.bind_eq (readNumber_numeral hn ending rest hstop)]
    rfl

theorem readNullable_reads {α : Type} {item : Reader α} {write : α → Json}
    (hne : ∀ a, write a ≠ .null) {v : Option α}
    (hitem : ∀ a, v = some a → ∀ u, Spells (write a) u → Reads item u a) {u w : Text}
    (hu : Spells (v.elim .null write) u) (hw : IsSpace w) :
    Reads (readNullable item) (w ++ u) v := by
  cases v with
  | none =>
    cases hu with
    | null =>
      refine (Reader.token_bind_takes (c := 'n') (t := "ull") hw (by decide) ?_).reads
      rw [if_pos rfl]
      exact (Reader.word_takes (t := "null") (by decide)).bind (fun ending rest => rfl)
  -- Only null starts with its letter, and the value is written as something else.
  | some a =>
    obtain ⟨c, t, hcons, hsign, -, hnull⟩ := hu.sign
    have hread : Reads item u a := hitem a rfl u hu
    rw [hcons] at hread ⊢
    refine Reader.token_bind_reads hw hsign ?_
    rw [if_neg (hnull (hne a))]
    exact hread.map some

theorem finIdxOf?_get {labels : List Text} (h : labels.Nodup) (i : Fin labels.length) :
    labels.finIdxOf? (labels.get i) = some i := by
  refine List.finIdxOf?_eq_some_iff.mpr ⟨rfl, fun j hj heq => ?_⟩
  have hsame : j.val = i.val := (List.getElem_inj h).mp heq
  exact absurd hj (by rw [Fin.lt_def, hsame]; exact Nat.lt_irrefl _)

theorem readChoice_reads {labels : List Text} (hlabels : labels.Nodup) (i : Fin labels.length)
    {u w : Text} (hu : Spells (.text (labels.get i)) u) (hw : IsSpace w) :
    Reads (readChoice labels) (w ++ u) i := by
  have hword : Reads (readWord .label) u (labels.get i) :=
    readWord_reads .label hu isSpace_nil
  have hlabel : Reads (readLabel labels) u i := by
    intro ending rest hstop
    rw [readLabel, Reader.bind_eq (hword ending rest hstop), finIdxOf?_get hlabels]
    rfl
  cases hu with
  | text t =>
    refine Reader.token_bind_reads (c := '"') hw (by decide) ?_
    rw [if_neg (by decide), if_pos rfl]
    exact hlabel

/-! ## Records in progress -/

/-- The record as far as some keys go. -/
def Fields.holding : (fs : Fields) → fs.Values → List Text → fs.Partial
  | .nil, _, _ => ()
  | .cons key _ _ rest, vs, seen =>
    (if key ∈ seen then some vs.1 else none, rest.holding vs.2 seen)

theorem Fields.holding_nil : (fs : Fields) → (vs : fs.Values) → fs.holding vs [] = fs.start
  | .nil, _ => rfl
  | .cons _ _ _ rest, vs => by
    simp only [Fields.holding, Fields.start, Fields.holding_nil rest vs.2, List.not_mem_nil,
      if_false]
    rfl

/-- A key that no field has makes no difference. -/
theorem Fields.holding_cons_of_notMem : (fs : Fields) → (vs : fs.Values) → {key : Text} →
    key ∉ fs.keys → (seen : List Text) → fs.holding vs (key :: seen) = fs.holding vs seen
  | .nil, _, _, _, _ => rfl
  | .cons k _ _ rest, vs, key, hkey, seen => by
    rw [Fields.keys, List.mem_cons, not_or] at hkey
    have hother : (k ∈ key :: seen) = (k ∈ seen) := by
      simp [Ne.symm hkey.1]
    simp only [Fields.holding, Fields.holding_cons_of_notMem rest vs.2 hkey.2 seen, hother]
    rfl

/-- A record that holds all its keys is complete. -/
theorem Fields.complete_holding : (fs : Fields) → (vs : fs.Values) → {seen : List Text} →
    (∀ key ∈ fs.keys, key ∈ seen) → fs.complete (fs.holding vs seen) = .ok vs
  | .nil, _, _, _ => rfl
  | .cons key optional s rest, vs, seen, hseen => by
    have hkey : key ∈ seen := hseen key (by simp [Fields.keys])
    have hrest : rest.complete (rest.holding vs.2 seen) = .ok vs.2 :=
      Fields.complete_holding rest vs.2 fun k hk => hseen k (List.mem_cons_of_mem _ hk)
    simp only [Fields.holding, Fields.complete, if_pos hkey, hrest]
    rfl

theorem Fields.keys_encodeMembers : (fs : Fields) → (vs : fs.Values) →
    (fs.encodeMembers vs).map (·.1) = fs.keys
  | .nil, _ => rfl
  | .cons key _ s rest, vs => by
    rw [Fields.encodeMembers, List.map_cons, Fields.keys_encodeMembers rest vs.2, Fields.keys]

theorem Fields.nodup_keys : {fs : Fields} → fs.isSound = true → fs.keys.Nodup
  | .nil, _ => List.nodup_nil
  | .cons key _ s rest, h => by
    simp only [Fields.isSound, Bool.and_eq_true, Bool.not_eq_true', List.contains_eq_mem,
      decide_eq_false_iff_not] at h
    exact List.nodup_cons.mpr ⟨h.1.1, Fields.nodup_keys h.2⟩

/-! ## Shapes -/

theorem Shape.encode_ne_null {s : Shape} (h : s.isNullable = false) (v : s.Value) :
    s.encode v ≠ .null := by
  cases s with
  | nullable s => exact absurd h (by simp [Shape.isNullable])
  | _ => nofun

theorem Fields.complete_reads {title : Text} {fields : Fields} {vs : fields.Values}
    (hmember : ∀ key v, (key, v) ∈ fields.encodeMembers vs → ∀ seen, key ∉ seen →
      ∀ u x x', Spells v u → IsSpace x → IsSpace x' →
      Reads (fields.readMember key (fields.holding vs seen)) (x ++ ':' :: (x' ++ u))
        (fields.holding vs (key :: seen)))
    (hsound : fields.isSound = true) {u w : Text}
    (hu : Spells (.object (fields.encodeMembers vs)) u) (hw : IsSpace w) :
    Reads (Shape.record title fields).read (w ++ u) vs := by
  cases hu with
  | @object _ t x ht hx =>
    refine (Reader.token_bind_takes hw (by decide) ?_).reads
    intro ending rest
    have hkeys : (fields.encodeMembers vs).map (·.1) = fields.keys := fields.keys_encodeMembers vs
    have hbound := lt_rounds ht.length_le (x ++ ['\x7d']) rest
    have hmembers := readMembers_eq (fields.holding vs) hmember
      (hkeys ▸ fields.nodup_keys hsound) [] (by simp) ht hx hbound ending rest
    -- Once all members are read, every key of the record is held.
    have hcomplete : fields.complete
        (fields.holding vs (((fields.encodeMembers vs).map (·.1)).reverse ++ [])) = .ok vs := by
      refine fields.complete_holding vs fun key hkey => ?_
      rw [List.append_nil, List.mem_reverse, hkeys]
      exact hkey
    rw [fields.holding_nil vs] at hmembers
    rw [if_pos rfl, Reader.bind_eq (Reader.advance_eq (by decide) ending _ rest),
      Reader.bind_eq (remaining_eq ending _), Reader.bind_eq hmembers, hcomplete]
    show (closeObject >>= fun _ => pure vs) ending (utf8 ['\x7d'] ++ rest) = _
    rw [Reader.bind_eq (closeObject_takes ending rest)]
    rfl

mutual

/-- **What is written is read back**: the data of a sound shape is read from every spelling of the
value it is written as. -/
theorem Shape.read_reads : (s : Shape) → s.isSound = true → (v : s.Value) → s.Fits v →
    {u w : Text} → Spells (s.encode v) u → IsSpace w → Reads s.read (w ++ u) v
  | .text, _, _, _, _, _, hu, hw => readWord_reads .text hu hw
  | .boolean, _, _, _, _, _, hu, hw => readBoolean_reads hu hw
  | .count, _, _, hn, _, _, hu, hw => readCount_reads hn hu hw
  | .nullable s, hsound, v, hfits, u, w, hu, hw => by
    simp only [Shape.isSound, Bool.and_eq_true, Bool.not_eq_true'] at hsound
    have hwritten : Spells (Option.elim v .null s.encode) u := by
      cases v <;> exact hu
    refine readNullable_reads (Shape.encode_ne_null hsound.1) ?_ hwritten hw
    intro a ha u hu
    exact Shape.read_reads s hsound.2 a (hfits a ha) (w := []) hu isSpace_nil
  | .list s, hsound, vs, hfits, u, w, hu, hw => by
    refine (readList_takes ?_ hu hw).reads
    intro v hv u hu
    exact Shape.read_reads s hsound v (hfits v hv) (w := []) hu isSpace_nil
  | .label labels, hsound, i, _, _, _, hu, hw =>
    readChoice_reads (of_decide_eq_true hsound) i hu hw
  | .record _ fields, hsound, vs, hfits, _, _, hu, hw =>
    Fields.complete_reads
      (fun _ _ hmem _ hseen _ _ _ hu hx hx' =>
        Fields.readMember_reads fields hsound vs hfits hmem hseen hu hx hx')
      hsound hu hw

/-- A member takes the record that holds some keys to the one that holds its key too. -/
theorem Fields.readMember_reads : (fs : Fields) → fs.isSound = true → (vs : fs.Values) →
    fs.Fit vs → {key : Text} → {v : Json} → (key, v) ∈ fs.encodeMembers vs → {seen : List Text} →
    key ∉ seen → {u x x' : Text} → Spells v u → IsSpace x → IsSpace x' →
    Reads (fs.readMember key (fs.holding vs seen)) (x ++ ':' :: (x' ++ u))
      (fs.holding vs (key :: seen))
  | .nil, _, _, _, _, _, hmem, _, _, _, _, _, _, _, _ => absurd hmem (by simp [Fields.encodeMembers])
  | .cons k optional s rest, hsound, vs, hfits, key, v, hmem, seen, hseen, u, x, x', hu, hx, hx' => by
    simp only [Fields.isSound, Bool.and_eq_true, Bool.not_eq_true', List.contains_eq_mem,
      decide_eq_false_iff_not] at hsound
    obtain ⟨⟨hfresh, hs⟩, hrest⟩ := hsound
    by_cases hk : key = k
    -- The member is the first field, which was not read before; the others stay as they are.
    · subst hk
      have hv : v = s.encode vs.1 := by
        rcases List.mem_cons.mp hmem with heq | hmem
        · exact (Prod.mk.inj heq).2
        · have hkey : key ∈ rest.keys :=
            rest.keys_encodeMembers vs.2 ▸ List.mem_map_of_mem hmem
          exact absurd hkey hfresh
      subst hv
      have hread : Reads s.read (x' ++ u) vs.1 := Shape.read_reads s hs vs.1 hfits.1 hu hx'
      have hmember : Reads (Reader.colon >>= fun _ => s.read >>= fun v =>
            (pure (some v, rest.holding vs.2 seen) : Reader (Option s.Value × rest.Partial)))
          ((x ++ [':']) ++ (x' ++ u)) (some vs.1, rest.holding vs.2 seen) := by
        refine (Reader.colon_takes hx).bind_reads fun ending bytes hstop => ?_
        rw [Reader.bind_eq (hread ending bytes hstop)]
        rfl
      rw [List.append_assoc, List.singleton_append] at hmember
      simp only [Fields.holding, Fields.readMember, if_neg hseen, if_pos List.mem_cons_self,
        if_true, Option.isSome_none, Bool.false_eq_true, if_false,
        rest.holding_cons_of_notMem vs.2 hfresh seen]
      exact hmember
    -- The member is one of the other fields; the first stays as it is.
    · have hmem : (key, v) ∈ rest.encodeMembers vs.2 := by
        rcases List.mem_cons.mp hmem with heq | hmem
        · exact absurd (Prod.mk.inj heq).1 hk
        · exact hmem
      have hread := Fields.readMember_reads rest hrest vs.2 hfits.2 hmem hseen hu hx hx'
      intro ending bytes hstop
      simp only [Fields.holding, Fields.readMember, if_neg hk]
      rw [Reader.bind_eq (hread ending bytes hstop)]
      have hother : (k ∈ key :: seen) = (k ∈ seen) := by simp [Ne.symm hk]
      simp only [hother]
      rfl

end

/-! ## Shapes without counts -/

mutual

/-- Whether there is no count in a shape. -/
def Shape.isCountFree : Shape → Bool
  | .text => true
  | .boolean => true
  | .count => false
  | .nullable s => s.isCountFree
  | .list s => s.isCountFree
  | .label _ => true
  | .record _ fields => fields.areCountFree

/-- Whether there is no count in the fields. -/
def Fields.areCountFree : Fields → Bool
  | .nil => true
  | .cons _ _ s rest => s.isCountFree && rest.areCountFree

end

mutual

theorem Shape.fits_of_isCountFree : (s : Shape) → s.isCountFree = true → (v : s.Value) → s.Fits v
  | .text, _, _ => trivial
  | .boolean, _, _ => trivial
  | .count, h, _ => absurd h (by simp [Shape.isCountFree])
  | .nullable s, h, _ => fun x _ => Shape.fits_of_isCountFree s h x
  | .list s, h, _ => fun v _ => Shape.fits_of_isCountFree s h v
  | .label _, _, _ => trivial
  | .record _ fields, h, vs => Fields.fit_of_areCountFree fields h vs

theorem Fields.fit_of_areCountFree : (fs : Fields) → fs.areCountFree = true →
    (vs : fs.Values) → fs.Fit vs
  | .nil, _, _ => trivial
  | .cons _ _ s rest, h, vs => by
    rw [Fields.areCountFree, Bool.and_eq_true] at h
    exact ⟨Shape.fits_of_isCountFree s h.1 vs.1, Fields.fit_of_areCountFree rest h.2 vs.2⟩

end

/-! ## Whole streams -/

theorem stops_of_isSpace {w : Text} (hw : IsSpace w) : Stops .complete (utf8 w) := by
  cases w with
  | nil => rfl
  | cons c w =>
    have hc := hw c (by simp)
    have hstop := stops_sign (isSpace_of_mem hc).1 (continuesNumber_of_space hc) .complete w []
    rwa [List.append_nil] at hstop

theorem Shape.decode_eq {s : Shape} (hsound : s.isSound = true) {v : s.Value} (hfits : s.Fits v)
    {t w w' : Text} (ht : Spells (s.encode v) t) (hw : IsSpace w) (hw' : IsSpace w') :
    s.decode (.ofBytes (utf8 (w ++ t ++ w'))) = .ok v := by
  have hread := Shape.read_reads s hsound v hfits ht hw .complete (utf8 w') (stops_of_isSpace hw')
  unfold Shape.decode
  rw [Text.utf8_append]
  show Except.map _ ((s.read >>= fun v => Reader.finish >>= fun _ => pure v) .complete
    (utf8 (w ++ t) ++ utf8 w')) = _
  rw [Reader.bind_eq hread, Reader.bind_eq (Reader.finish_eq hw')]
  rfl

/-- **Decoding undoes encoding**: a stream that holds a spelling of the JSON value of some data, and
nothing else but white space, is read as the data. -/
theorem Form.decode_toJson {α : Type} {f : Form α} (hsound : f.shape.isSound = true) {a : α}
    (hfits : f.shape.Fits (f.toData a)) {t w w' : Text} (ht : Spells (f.toJson a) t)
    (hw : IsSpace w) (hw' : IsSpace w') :
    f.decode (.ofBytes (utf8 (w ++ t ++ w'))) = .ok a := by
  rw [Form.decode, Shape.decode_eq hsound hfits ht hw hw']
  show Except.ok (f.ofData (f.toData a)) = _
  rw [f.ofData_toData]

end Gazetteer.Json
