/-
# Gazetteer.Proofs.Json.Meaning -- what data a JSON value is read as

`Shape.ofDoc` says on the syntax tree what reading makes of a value: the data of the shape, or the
first fault in the order of the text. It knows nothing of bytes, white space or brackets: the members
of an object are taken one by one into the fields of a record, the items of a list are taken in order,
and a value of the wrong kind is refused by what it is.

Reading any text of a value gives what `Shape.ofDoc` gives for it (`Shape.read_settles`,
`Shape.decode_eq_ofDoc`). Whatever is to be shown of reading, faults included, can so be shown of
trees.
-/
import Gazetteer.Proofs.Json.RoundTrip
import Gazetteer.Proofs.Json.Skipping

namespace Gazetteer.Json

open Storage (Ending)
open Text (utf8)

variable {α β : Type}

/-! ## Values of the wrong kind -/

namespace Doc

/-- What a value shows as where something else is expected. -/
def found : Doc → Except Fault Found
  | .null => .ok .null
  | .boolean b => .ok (.boolean b)
  | .number n => n.read.map Number.found
  | .text l => l.read.map Found.text
  | .array _ => .ok .sequence
  | .object _ => .ok .map

/-- The fault of a value where something else is expected. -/
def refuse (d : Doc) (expected : Expected) : Except Fault α :=
  d.found >>= fun f => .error (.mismatch (.wrongKind f expected))

/-! ## Plain data -/

/-- A value as a text. -/
def asText (expected : Expected) : Doc → Except Fault Text
  | .text l => l.read
  | d => d.refuse expected

/-- A value as a truth value. -/
def asBoolean : Doc → Except Fault Bool
  | .boolean b => .ok b
  | d => d.refuse .boolean

/-- A value as a count. -/
def asCount : Doc → Except Fault Nat
  | .number n => do
    match ← n.read with
    | .natural n => .ok n
    | .negative n => .error (.mismatch (.wrongValue (.integer n) .count))
    | .floating x => .error (.mismatch (.wrongKind (.floating x) .count))
  | d => d.refuse .count

/-- A value as null. -/
def asUnit : Doc → Except Fault Unit
  | .null => .ok ()
  | d => d.refuse .unit

/-- The place of a label. -/
def labelOf (labels : List Text) (given : Text) : Except Fault (Fin labels.length) :=
  match labels.finIdxOf? given with
  | some i => .ok i
  | none => .error (.mismatch (.unknownLabel given labels))

/-- A value as a label: a text, or an object with the label as its only key and null as its value. -/
def asLabel (labels : List Text) : Doc → Except Fault (Fin labels.length)
  | .text l => l.read >>= labelOf labels
  | .object ((key, d) :: members) => do
    let i ← key.read >>= labelOf labels
    d.asUnit
    if members.isEmpty then .ok i else .error .malformed
  | _ => .error .malformed

end Doc

/-! ## Data of a shape -/

mutual

/-- The data of a shape that a value is read as. -/
def Shape.ofDoc : (s : Shape) → Doc → Except Fault s.Value
  | .text, d => d.asText .text
  | .boolean, d => d.asBoolean
  | .count, d => d.asCount
  | .nullable _, .null => .ok none
  | .nullable s, d => (s.ofDoc d).map some
  | .list s, .array items => items.mapM fun d => s.ofDoc d
  | .list _, d => d.refuse .sequence
  | .label labels, d => d.asLabel labels
  | .record _ fields, .object members => do
    let state ← members.foldlM (fun state m => m.1.read >>= fun k => fields.ofMember k m.2 state)
      fields.start
    match fields.complete state with
    | .error m => .error (.mismatch m)
    | .ok vs => .ok vs
  | .record title fields, .array items => do
    let (vs, left) ← fields.ofItems title fields.size 0 items
    if left.isEmpty then .ok vs else .error .malformed
  | .record title _, d => d.refuse (.record title)

/-- Takes a member into the fields that were read so far. -/
def Fields.ofMember : (fs : Fields) → Text → Doc → fs.Partial → Except Fault fs.Partial
  | .nil, _, _, state => .ok state
  | .cons key _ s rest, k, d, (v, vs) =>
    if k = key then
      if v.isSome then .error (.mismatch (.duplicateField key))
      else (s.ofDoc d).map fun v => (some v, vs)
    else (rest.ofMember k d vs).map fun vs => (v, vs)

/-- The fields of a record from the items of a list, and the items that are left over. -/
def Fields.ofItems : (fs : Fields) → Text → Nat → Nat → List Doc →
    Except Fault (fs.Values × List Doc)
  | .nil, _, _, _, items => .ok ((), items)
  | .cons _ _ s rest, title, size, index, d :: items => do
    let v ← s.ofDoc d
    (rest.ofItems title size (index + 1) items).map fun p => ((v, p.1), p.2)
  | .cons _ optional s rest, title, size, index, [] =>
    match s.inList optional with
    | none => .error (.mismatch (.tooShort index title size))
    | some v => (rest.ofItems title size (index + 1) []).map fun p => ((v, p.1), p.2)

end

/-- A value other than null, where a value may be null. -/
theorem Shape.ofDoc_nullable {s : Shape} {d : Doc} (h : d ≠ .null) :
    (Shape.nullable s).ofDoc d = (s.ofDoc d).map some := by
  cases d <;> first | exact absurd rfl h | rfl

/-! ## Reading numbers and refusing values -/

/-- A number is read behind its minus sign, or from its first digit. -/
theorem readNumber_written (n : NumberLiteral) {f : Number → Reader β}
    {g : Number → Except Fault β} (hf : ∀ a, Settles (f a) [] (g a)) :
    ∃ c t, n.written = c :: t ∧ Doc.IsNumberSign c ∧ ∀ other : Reader β,
      Settles (if c = '-' then Reader.advance >>= fun _ => readNumber true >>= f
        else if c.isDigit then readNumber false >>= f else other) (c :: t) (n.read >>= g) := by
  have hread := (readNumber_settles n).bind hf
  cases hsign : n.negative with
  | true =>
    refine ⟨'-', n.unsigned, by simp [NumberLiteral.written, hsign], .inl rfl, fun other => ?_⟩
    rw [if_pos rfl]
    rw [hsign] at hread
    exact (advance_steps (by decide) n.unsigned).bind hread
  | false =>
    obtain ⟨c, t, hcons, hc⟩ := Doc.exists_cons_unsigned n
    have hminus : c ≠ '-' := by
      rintro rfl
      exact absurd hc (by decide)
    refine ⟨c, t, by simp [NumberLiteral.written, hsign, hcons], .inr hc, fun other => ?_⟩
    rw [if_neg hminus, if_pos hc, ← hcons]
    rw [hsign] at hread
    exact hread

/-- A value of the wrong kind is refused by what it is. -/
theorem unexpected_settles (expected : Expected) {d : Doc} {u : Text} (hu : d.Writes u) :
    Settles (unexpected (α := α) expected) u (d.refuse expected) := by
  have hrefuse : ∀ found, Settles (Reader.refuse (.wrongKind found expected) : Reader α) []
      (.error (.mismatch (.wrongKind found expected))) := fun found => settles_fail _ _
  have hdone : ∀ f t, Settles (Reader.refuse (.wrongKind f expected) : Reader α) t
      (.error (.mismatch (.wrongKind f expected))) := fun f t => settles_fail _ t
  have hword : ∀ (f : Found) (t : Text), (∀ c ∈ t, c.toNat < 0x80) →
      Settles (Reader.word t >>= fun _ => (Reader.refuse (.wrongKind f expected) : Reader α)) t
        (.error (.mismatch (.wrongKind f expected))) := by
    intro f t ht
    exact (Reader.word_takes ht).reads.settles.bind (g := fun _ =>
      .error (.mismatch (.wrongKind f expected))) fun _ => hrefuse f
  cases hu with
  | null =>
    refine (peek_steps (c := 'n') (by decide) "ull").bind ?_
    exact hword .null "null" (by decide)
  | boolean b =>
    cases b with
    | false =>
      refine (peek_steps (c := 'f') (by decide) "alse").bind ?_
      exact hword (.boolean false) "false" (by decide)
    | true =>
      refine (peek_steps (c := 't') (by decide) "rue").bind ?_
      exact hword (.boolean true) "true" (by decide)
  | number n =>
    obtain ⟨c, t, hcons, hc, hread⟩ := readNumber_written n (β := α)
      (f := fun n => Reader.refuse (.wrongKind n.found expected)) fun n => hrefuse n.found
    have hrefused : Doc.refuse (α := α) (.number n) expected
        = n.read >>= fun n => .error (.mismatch (.wrongKind n.found expected)) := by
      simp only [Doc.refuse, Doc.found]
      cases n.read <;> rfl
    rw [hcons, hrefused]
    refine (peek_steps hc.isSign.isAscii t).bind ?_
    rw [if_neg (hc.ne (by decide)), if_neg (hc.ne (by decide)), if_neg (hc.ne (by decide))]
    exact hread _
  | text l =>
    have hread := (quotedText_settles l).bind (f := fun t =>
      (Reader.refuse (.wrongKind (.text t) expected) : Reader α)) fun t => hrefuse (.text t)
    have hrefused : Doc.refuse (α := α) (.text l) expected
        = l.read >>= fun t => .error (.mismatch (.wrongKind (.text t) expected)) := by
      simp only [Doc.refuse, Doc.found]
      cases l.read <;> rfl
    rw [hrefused]
    exact (peek_steps (by decide) l.body).bind ((advance_steps (by decide) l.body).bind hread)
  | array _ _ => exact (peek_steps (by decide) _).bind (hdone .sequence _)
  | object _ _ => exact (peek_steps (by decide) _).bind (hdone .map _)

/-! ## Reading plain data -/

variable {d : Doc} {u w : Text}

/-- What a reader does is settled by the first sign of the value. -/
theorem token_settles {f : Char → Reader α} {o : Except Fault α} (hu : d.Writes u) (hw : IsSpace w)
    (hf : ∀ c t, u = c :: t → Settles (f c) (c :: t) o) :
    Settles (Reader.token >>= f) (w ++ u) o := by
  obtain ⟨c, t, rfl, hc, -⟩ := hu.sign
  exact token_bind_settles hw hc (hf c t rfl)

theorem readWord_settles (expected : Expected) (hu : d.Writes u) (hw : IsSpace w) :
    Settles (readWord expected) (w ++ u) (d.asText expected) := by
  refine token_settles hu hw fun c t hcons => ?_
  have hrefused := unexpected_settles (α := Text) expected hu
  rw [hcons] at hrefused
  cases hu with
  | text l =>
    obtain ⟨rfl, rfl⟩ := List.cons.inj hcons
    rw [if_pos rfl]
    exact (advance_steps (by decide) l.body).bind (quotedText_settles l)
  | number n =>
    obtain ⟨c', t', hcons', hc'⟩ := Doc.exists_cons_number n
    obtain ⟨rfl, rfl⟩ := List.cons.inj (hcons'.symm.trans hcons)
    rw [if_neg (hc'.ne (by decide))]
    exact hrefused
  | boolean b =>
    cases b <;>
    · obtain ⟨rfl, rfl⟩ := List.cons.inj hcons
      exact hrefused
  | null | array _ _ | object _ _ =>
    obtain ⟨rfl, rfl⟩ := List.cons.inj hcons
    exact hrefused

theorem readBoolean_settles (hu : d.Writes u) (hw : IsSpace w) :
    Settles readBoolean (w ++ u) d.asBoolean := by
  refine token_settles hu hw fun c t hcons => ?_
  have hrefused := unexpected_settles (α := Bool) .boolean hu
  rw [hcons] at hrefused
  have hword : ∀ (b : Bool) (t : Text), (∀ c ∈ t, c.toNat < 0x80) →
      Settles (Reader.word t >>= fun _ => (pure b : Reader Bool)) t (.ok b) := by
    intro b t ht
    exact (Reader.word_takes ht).reads.settles.bind (g := fun _ => .ok b) fun _ => settles_pure b
  cases hu with
  | boolean b =>
    cases b with
    | true =>
      obtain ⟨rfl, rfl⟩ := List.cons.inj hcons
      exact hword true "true" (by decide)
    | false =>
      obtain ⟨rfl, rfl⟩ := List.cons.inj hcons
      exact hword false "false" (by decide)
  | number n =>
    obtain ⟨c', t', hcons', hc'⟩ := Doc.exists_cons_number n
    obtain ⟨rfl, rfl⟩ := List.cons.inj (hcons'.symm.trans hcons)
    rw [if_neg (hc'.ne (by decide)), if_neg (hc'.ne (by decide))]
    exact hrefused
  | null | text _ | array _ _ | object _ _ =>
    obtain ⟨rfl, rfl⟩ := List.cons.inj hcons
    exact hrefused

theorem readCount_settles (hu : d.Writes u) (hw : IsSpace w) :
    Settles readCount (w ++ u) d.asCount := by
  refine token_settles hu hw fun c t hcons => ?_
  have hrefused := unexpected_settles (α := Nat) .count hu
  rw [hcons] at hrefused
  cases hu with
  | number n =>
    obtain ⟨c', t', hcons', hc', hread⟩ := readNumber_written n (β := Nat) (f := countOf)
      (g := fun
        | .natural n => .ok n
        | .negative n => .error (.mismatch (.wrongValue (.integer n) .count))
        | .floating x => .error (.mismatch (.wrongKind (.floating x) .count))) (by
        intro a
        cases a with
        | natural n => exact settles_pure n
        | negative n => exact settles_fail _ _
        | floating x => exact settles_fail _ _)
    obtain ⟨rfl, rfl⟩ := List.cons.inj (hcons'.symm.trans hcons)
    exact hread _
  | boolean b =>
    cases b <;>
    · obtain ⟨rfl, rfl⟩ := List.cons.inj hcons
      exact hrefused
  | null | text _ | array _ _ | object _ _ =>
    obtain ⟨rfl, rfl⟩ := List.cons.inj hcons
    exact hrefused

theorem readUnit_settles (hu : d.Writes u) (hw : IsSpace w) :
    Settles readUnit (w ++ u) d.asUnit := by
  refine token_settles hu hw fun c t hcons => ?_
  have hrefused := unexpected_settles (α := Unit) .unit hu
  rw [hcons] at hrefused
  by_cases hnull : d = .null
  · subst hnull
    cases hu
    obtain ⟨rfl, rfl⟩ := List.cons.inj hcons
    exact (Reader.word_takes (t := "null") (by decide)).reads.settles
  · obtain ⟨c', t', hcons', -, -, -, hletter⟩ := hu.sign
    obtain ⟨rfl, rfl⟩ := List.cons.inj (hcons'.symm.trans hcons)
    have hunit : d.asUnit = d.refuse .unit := by
      cases d <;> first | exact absurd rfl hnull | rfl
    rw [if_neg (hletter hnull), hunit]
    exact hrefused

/-- Null, where a value may be null. -/
theorem readNullable_null (item : Reader α) (hu : Doc.null.Writes u) (hw : IsSpace w) :
    Settles (readNullable item) (w ++ u) (.ok none) := by
  cases hu
  refine token_bind_settles (c := 'n') (t := "ull") hw (by decide) ?_
  rw [if_pos rfl]
  exact (Reader.word_takes (t := "null") (by decide)).reads.settles.bind (g := fun _ => .ok none)
    fun _ => settles_pure none

/-- Another value, where a value may be null. -/
theorem readNullable_settles {item : Reader α} {o : Except Fault α} (hu : d.Writes u)
    (hw : IsSpace w) (hnull : d ≠ .null) (hitem : Settles item u o) :
    Settles (readNullable item) (w ++ u) (o.map some) := by
  obtain ⟨c, t, rfl, hc, -, -, hletter⟩ := hu.sign
  refine token_bind_settles hw hc ?_
  rw [if_neg (hletter hnull)]
  exact hitem.map some

/-! ## Reading labels -/

/-- What follows a settled reader sees its value and goes on with the text behind. -/
theorem Settles.bind_front {x : Reader α} {f : α → Reader β} {s t : Text} {o : Except Fault α}
    {g : α → Except Fault β} (hx : Settles x s o)
    (hstop : ∀ ending rest, Stops ending (utf8 t ++ rest)) (hf : ∀ a, Settles (f a) t (g a)) :
    Settles (x >>= f) (s ++ t) (o >>= g) := by
  intro ending rest hrest
  have hread := hx ending _ (hstop ending rest)
  rw [Text.utf8_append, List.append_assoc]
  show (x ending (utf8 s ++ (utf8 t ++ rest)) >>= fun p => f p.1 ending p.2) = _
  rw [hread]
  cases o with
  | error e => rfl
  | ok a => exact hf a ending rest hrest

theorem Takes.bind_settles {x : Reader α} {f : α → Reader β} {s t : Text} {a : α}
    {o : Except Fault β} (hx : Takes x s a) (hf : Settles (f a) t o) :
    Settles (x >>= f) (s ++ t) o := (hx.steps t).bind hf

theorem readLabel_settles (labels : List Text) {o : Except Fault Text} {t : Text}
    (ht : Settles (readWord .label) t o) :
    Settles (readLabel labels) t (o >>= Doc.labelOf labels) := by
  refine ht.bind fun given => ?_
  unfold Doc.labelOf
  cases labels.finIdxOf? given with
  | some i => exact settles_pure i
  | none => exact settles_fail _ _

/-- The text that follows a key or a value in an object goes on with no number. -/
theorem stops_behind {t w : Text} (hcomma : StartsComma t) (hw : IsSpace w) (ending : Ending)
    (rest : List UInt8) : Stops ending (utf8 (t ++ (w ++ ['\x7d'])) ++ rest) :=
  hcomma.stops hw (by decide) (by decide) ending rest

/-- The end of an object with one key. -/
theorem closeChoice_settles {members : List Member} {t : Text} (i : α) (hw : IsSpace w)
    (ht : Doc.WritesMembers false members t) :
    Settles (Reader.token >>= fun c => if c = '\x7d' then Reader.advance >>= fun _ => pure i
        else Reader.fail .malformed) (t ++ (w ++ ['\x7d']))
      (if members.isEmpty then .ok i else .error .malformed) := by
  cases members with
  | nil =>
    cases ht
    refine token_bind_settles hw (by decide) ?_
    rw [if_pos rfl]
    exact (advance_steps (by decide) []).bind (settles_pure i)
  | cons m members =>
    cases ht with
    | @cons _ key d' _ u t y y' x x' hy hy' hx hx' hd hmembers =>
      have hsplit : (comma false y ++ (y' ++ (key.written ++ ((x ++ ':' :: (x' ++ u)) ++ t))))
            ++ (w ++ ['\x7d'])
          = y ++ ',' :: ((y' ++ (key.written ++ ((x ++ ':' :: (x' ++ u)) ++ t)))
            ++ (w ++ ['\x7d'])) := by simp [comma]
      rw [hsplit]
      exact token_bind_settles hy (by decide) (settles_fail _ _)

/-- A label is read from the only key of an object. -/
theorem choiceObject_settles (labels : List Text) {members : List Member} {t : Text}
    (ht : Doc.WritesMembers true members t) (hw : IsSpace w) :
    Settles (readLabel labels >>= fun i => Reader.colon >>= fun _ => readUnit >>= fun _ =>
        Reader.token >>= fun c => if c = '\x7d' then Reader.advance >>= fun _ => pure i
          else Reader.fail .malformed)
      (t ++ (w ++ ['\x7d'])) ((Doc.object members).asLabel labels) := by
  cases ht with
  -- Without a key there is the closing brace, which is no sign of a value.
  | nil =>
    have hnone : Settles (readWord .label) ([] ++ (w ++ ['\x7d'])) (.error .malformed) := by
      refine token_bind_settles hw (by decide) ?_
      rw [if_neg (by decide)]
      exact (peek_steps (by decide) []).bind (settles_fail _ _)
    intro ending rest hstop
    rw [Reader.bind_error (readLabel_settles labels hnone ending rest hstop)]
    rfl
  | @cons _ key d members u t y y' x x' hy hy' hx hx' hd hmembers =>
    have hkey : Settles (readLabel labels) (y' ++ key.written) (key.read >>= Doc.labelOf labels) :=
      readLabel_settles labels (readWord_settles .label (.text key) hy')
    have hbehind : ∀ i : Fin labels.length, Settles (Reader.colon >>= fun _ => readUnit >>= fun _ =>
          Reader.token >>= fun c => if c = '\x7d' then Reader.advance >>= fun _ => pure i
            else Reader.fail .malformed)
        ((x ++ [':']) ++ ((x' ++ u) ++ (t ++ (w ++ ['\x7d']))))
        (d.asUnit >>= fun _ => if members.isEmpty then .ok i else .error .malformed) := by
      intro i
      refine (Reader.colon_takes hx).bind_settles ?_
      refine (readUnit_settles hd hx').bind_front ?_ fun _ => ?_
      · exact stops_behind hmembers.startsComma hw
      · exact closeChoice_settles i hw hmembers
    have hstop : ∀ ending rest, Stops ending
        (utf8 ((x ++ [':']) ++ ((x' ++ u) ++ (t ++ (w ++ ['\x7d'])))) ++ rest) := by
      intro ending rest
      rw [List.append_assoc]
      exact stops_space hx (by decide) (by decide) ending _ rest
    have hall := hkey.bind_front hstop hbehind
    have hsplit : (comma true y ++ (y' ++ (key.written ++ ((x ++ ':' :: (x' ++ u)) ++ t))))
          ++ (w ++ ['\x7d'])
        = (y' ++ key.written) ++ ((x ++ [':']) ++ ((x' ++ u) ++ (t ++ (w ++ ['\x7d'])))) := by
      simp [comma]
    rw [hsplit]
    exact hall

/-- A label is read from a text, or from the only key of an object. -/
theorem readChoice_settles (labels : List Text) (hu : d.Writes u) (hw : IsSpace w) :
    Settles (readChoice labels) (w ++ u) (d.asLabel labels) := by
  refine token_settles hu hw fun c t hcons => ?_
  cases hu with
  | text l =>
    obtain ⟨rfl, rfl⟩ := List.cons.inj hcons
    rw [if_neg (by decide), if_pos rfl]
    exact readLabel_settles labels (readWord_settles .label (.text l) (w := []) isSpace_nil)
  | number n =>
    obtain ⟨c', t', hcons', hc'⟩ := Doc.exists_cons_number n
    obtain ⟨rfl, rfl⟩ := List.cons.inj (hcons'.symm.trans hcons)
    rw [if_neg (hc'.ne (by decide)), if_neg (hc'.ne (by decide))]
    exact settles_fail _ _
  | boolean b =>
    cases b <;>
    · obtain ⟨rfl, rfl⟩ := List.cons.inj hcons
      exact settles_fail _ _
  | null | array _ _ =>
    obtain ⟨rfl, rfl⟩ := List.cons.inj hcons
    exact settles_fail _ _
  | object hmembers hw' =>
    obtain ⟨rfl, rfl⟩ := List.cons.inj hcons
    rw [if_pos rfl]
    exact (advance_steps (by decide) _).bind (choiceObject_settles labels hmembers hw')

/-! ## Reading lists and objects -/

namespace Reader

variable {ending : Ending} {bytes : List UInt8}

/-- A value that is only wrapped up. -/
theorem bind_pure_eq (x : Reader α) (f : α → β) :
    (x >>= fun a => pure (f a)) ending bytes = (x ending bytes).map fun p => (f p.1, p.2) := by
  show (x ending bytes >>= fun p => pure (f p.1, p.2)) = _
  cases x ending bytes <;> rfl

end Reader

/-- The loop of a list makes of the items what its reader makes of each, up to the first fault. -/
theorem readItems_settles {item : Reader α} {f : Doc → Except Fault α} {items : List Doc}
    (hitem : ∀ d ∈ items, ∀ u, d.Writes u → Settles item u (f d)) {isFirst : Bool} {t w : Text}
    (ht : Doc.WritesItems isFirst items t) (hw : IsSpace w) {bound : Nat}
    (hbound : items.length < bound) (ending : Ending) (rest : List UInt8) :
    readItems item bound isFirst ending (utf8 (t ++ (w ++ [']'])) ++ rest)
      = (items.mapM f).map (·, utf8 [']'] ++ rest) := by
  -- The induction is on the items to come; only the first of all has no comma in front.
  induction items generalizing isFirst t bound with
  | nil =>
    cases ht
    obtain ⟨bound, rfl⟩ := Nat.exists_eq_succ_of_ne_zero (Nat.ne_of_gt hbound)
    rw [List.nil_append, readItems, Reader.bind_eq (moreItems_none hw ending rest)]
    rfl
  | cons d items ih =>
    obtain ⟨bound, rfl⟩ := Nat.exists_eq_succ_of_ne_zero (Nat.ne_of_gt (Nat.zero_lt_of_lt hbound))
    cases ht with
    | @cons _ _ _ u t x x' hx hx' hd hitems =>
      obtain ⟨c, u', hsign, hc, hne, -⟩ := hd.sign
      have hread := hitem d (by simp) u hd ending (utf8 (t ++ (w ++ [']'])) ++ rest)
        (hitems.startsComma.stops hw (by decide) (by decide) ending rest)
      have hothers := ih (fun y hy => hitem y (List.mem_cons_of_mem _ hy)) hitems
        (Nat.lt_of_succ_lt_succ hbound)
      have hmore := moreItems_more isFirst hx hx' hc hne ending (u' ++ (t ++ (w ++ [']']))) rest
      have hsplit : (comma isFirst x ++ (x' ++ (u ++ t))) ++ (w ++ [']'])
          = comma isFirst x ++ (x' ++ c :: (u' ++ (t ++ (w ++ [']'])))) := by
        rw [hsign]
        simp
      have hback : utf8 (c :: (u' ++ (t ++ (w ++ [']'])))) ++ rest
          = utf8 u ++ (utf8 (t ++ (w ++ [']'])) ++ rest) := by
        rw [hsign, ← List.cons_append, Text.utf8_append, List.append_assoc]
      rw [hsplit, readItems, Reader.bind_eq hmore, if_pos rfl, hback, List.mapM_cons]
      cases hvalue : f d with
      | error e =>
        rw [hvalue] at hread
        rw [Reader.bind_error hread]
        rfl
      | ok v =>
        rw [hvalue] at hread
        rw [Reader.bind_eq hread]
        cases hvalues : items.mapM f with
        | error e =>
          rw [hvalues] at hothers
          rw [Reader.map_error hothers]
          rfl
        | ok vs =>
          rw [hvalues] at hothers
          rw [Reader.map_eq hothers]
          rfl

theorem readList_settles {item : Reader α} {f : Doc → Except Fault α} {items : List Doc}
    (hitem : ∀ d ∈ items, ∀ u, d.Writes u → Settles item u (f d)) {u w : Text}
    (hu : (Doc.array items).Writes u) (hw : IsSpace w) :
    Settles (readList item) (w ++ u) (items.mapM f) := by
  cases hu with
  | @array _ t x ht hx =>
    refine token_bind_settles hw (by decide) ?_
    rw [if_pos rfl]
    refine (advance_steps (by decide) _).bind ?_
    intro ending rest hstop
    have hbound := lt_rounds ht.length_le (x ++ [']']) rest
    have hread := readItems_settles hitem ht hx hbound ending rest
    rw [Reader.bind_eq (remaining_eq ending _)]
    cases hvalues : items.mapM f with
    | error e =>
      rw [hvalues] at hread
      rw [Reader.bind_error hread]
      rfl
    | ok vs =>
      rw [hvalues] at hread
      rw [Reader.bind_eq hread, Reader.bind_eq (closeList_takes ending rest)]
      rfl

/-- The loop of an object takes one member after the other into what was read so far, up to the
first fault. -/
theorem readMembers_settles {σ : Type} {member : Text → σ → Reader σ}
    {step : Text → Doc → σ → Except Fault σ} {members : List Member}
    (hmember : ∀ m ∈ members, ∀ k state u x x', m.2.Writes u → IsSpace x → IsSpace x' →
      Settles (member k state) (x ++ ':' :: (x' ++ u)) (step k m.2 state)) (state : σ)
    {isFirst : Bool} {t w : Text} (ht : Doc.WritesMembers isFirst members t) (hw : IsSpace w)
    {bound : Nat} (hbound : members.length < bound) (ending : Ending) (rest : List UInt8) :
    readMembers member bound isFirst state ending (utf8 (t ++ (w ++ ['\x7d'])) ++ rest)
      = (members.foldlM (fun state m => m.1.read >>= fun k => step k m.2 state) state).map
        (·, utf8 ['\x7d'] ++ rest) := by
  induction members generalizing state isFirst t bound with
  | nil =>
    cases ht
    obtain ⟨bound, rfl⟩ := Nat.exists_eq_succ_of_ne_zero (Nat.ne_of_gt hbound)
    rw [List.nil_append, readMembers, Reader.bind_eq (moreMembers_none hw ending rest)]
    rfl
  | cons first members ih =>
    obtain ⟨bound, rfl⟩ := Nat.exists_eq_succ_of_ne_zero (Nat.ne_of_gt (Nat.zero_lt_of_lt hbound))
    cases ht with
    | @cons _ key d _ u t y y' x x' hy hy' hx hx' hd hmembers =>
      let behind := t ++ (w ++ ['\x7d'])
      let value := x ++ ':' :: (x' ++ u)
      have hname := quotedText_settles key ending (utf8 (value ++ behind) ++ rest) (by
        rw [List.append_assoc x]
        exact stops_space hx (by decide) (by decide) ending _ rest)
      have hread : ∀ k, member k state ending (utf8 value ++ (utf8 behind ++ rest))
          = (step k d state).map (·, utf8 behind ++ rest) := fun k =>
        hmember (key, d) (by simp) k state u x x' hd hx hx' ending _
          (stops_behind hmembers.startsComma hw ending rest)
      have hothers : ∀ state, readMembers member bound false state ending (utf8 behind ++ rest)
          = (members.foldlM (fun state m => m.1.read >>= fun k => step k m.2 state) state).map
            (·, utf8 ['\x7d'] ++ rest) := fun state =>
        ih (fun m hm => hmember m (List.mem_cons_of_mem _ hm)) state hmembers
          (Nat.lt_of_succ_lt_succ hbound)
      have hsplit : (comma isFirst y ++ (y' ++ (key.written ++ (value ++ t)))) ++ (w ++ ['\x7d'])
          = comma isFirst y ++ (y' ++ '"' :: (key.body ++ (value ++ behind))) := by
        simp [Literal.written, behind]
      have hmore := moreMembers_more isFirst hy hy' ending (key.body ++ (value ++ behind)) rest
      rw [hsplit, readMembers, Reader.bind_eq hmore, if_pos rfl,
        Reader.bind_eq (Reader.advance_eq (by decide) ending _ rest), Text.utf8_append,
        List.append_assoc, List.foldlM_cons]
      cases hkey : key.read with
      | error e =>
        rw [hkey] at hname
        rw [Reader.bind_error hname]
        rfl
      | ok k =>
        rw [hkey] at hname
        rw [Reader.bind_eq hname, Text.utf8_append, List.append_assoc]
        have hmember := hread k
        show _ = ((step k d state >>= _) : Except Fault σ).map _
        cases hstep : step k d state with
        | error e =>
          rw [hstep] at hmember
          rw [Reader.bind_error hmember]
          rfl
        | ok state' =>
          rw [hstep] at hmember
          rw [Reader.bind_eq hmember, hothers]
          rfl

/-! ## Reading data -/

/-- What reading the fields of a list comes to: the fault of the items, or the fields and the text
of the items that are left over. -/
inductive Leaves (rest : List UInt8) :
    Except Fault (α × List Doc) → Except Fault (α × List UInt8) → Prop where
  | fault (e : Fault) : Leaves rest (.error e) (.error e)
  | items {a : α} {left : List Doc} {isFirst : Bool} {t w : Text}
    (ht : Doc.WritesItems isFirst left t) (hw : IsSpace w) :
    Leaves rest (.ok (a, left)) (.ok (a, utf8 (t ++ (w ++ [']'])) ++ rest))

theorem Leaves.map {rest : List UInt8} {o : Except Fault (α × List Doc)}
    {r : Except Fault (α × List UInt8)} (h : Leaves rest o r) (f : α → β) :
    Leaves rest (o.map fun p => (f p.1, p.2)) (r.map fun p => (f p.1, p.2)) := by
  cases h with
  | fault e => exact .fault e
  | items ht hw => exact .items ht hw

/-- A list ends where no items are left. -/
theorem closeList_left {vs : α} {isFirst : Bool} {left : List Doc} {t w : Text}
    (ht : Doc.WritesItems isFirst left t) (hw : IsSpace w) :
    Settles (closeList >>= fun _ => pure vs) (t ++ (w ++ [']']))
      (if left.isEmpty then .ok vs else .error .malformed) := by
  cases ht with
  | nil =>
    have hclose : Steps closeList (w ++ [']']) [] () := by
      intro ending rest hstop
      rw [closeList, Reader.bind_eq (Reader.token_eq hw (by decide) ending [] rest), if_pos rfl]
      exact Reader.advance_eq (by decide) ending [] rest
    exact hclose.bind (settles_pure vs)
  | @cons _ d items u t y y' hy hy' hd hitems =>
    have hfail : ∀ {c : Char} {x t : Text}, IsSpace x → IsSign c → c ≠ ']' →
        Settles (closeList >>= fun _ => pure vs) (x ++ c :: t) (.error .malformed) := by
      intro c x t hx hc hne ending rest hstop
      refine Reader.bind_error ?_ _
      rw [closeList, Reader.bind_eq (Reader.token_eq hx hc ending t rest), if_neg hne]
      rfl
    obtain ⟨c, u', rfl, hc, hne, -⟩ := hd.sign
    cases isFirst with
    | true =>
      have hsplit : (comma true y ++ (y' ++ (c :: u' ++ t))) ++ (w ++ [']'])
          = y' ++ c :: (u' ++ (t ++ (w ++ [']']))) := by simp [comma]
      rw [hsplit]
      exact hfail hy' hc hne
    | false =>
      have hsplit : (comma false y ++ (y' ++ (c :: u' ++ t))) ++ (w ++ [']'])
          = y ++ ',' :: (y' ++ (c :: u' ++ (t ++ (w ++ [']'])))) := by simp [comma]
      rw [hsplit]
      exact hfail hy (by decide) (by decide)

/-- Behind its fields a list must end. -/
theorem closeList_settles {r : Reader α} {t : Text} {o : Except Fault (α × List Doc)}
    (h : ∀ ending rest, Leaves rest o (r ending (utf8 t ++ rest))) :
    Settles (r >>= fun vs => closeList >>= fun _ => pure vs) t
      (o >>= fun p => if p.2.isEmpty then .ok p.1 else .error .malformed) := by
  intro ending rest hstop
  have hread := h ending rest
  generalize hr : r ending (utf8 t ++ rest) = result at hread
  cases hread with
  | fault e =>
    rw [Reader.bind_error hr]
    rfl
  | items ht' hw' =>
    rw [Reader.bind_eq hr]
    exact closeList_left ht' hw' ending rest hstop

/-- The members of an object make a record, if none is missing that must be there. -/
theorem Fields.readObject_settles {fields : Fields} {members : List Member} {t w : Text}
    (ht : Doc.WritesMembers true members t) (hw : IsSpace w)
    (hmember : ∀ m ∈ members, ∀ k state u x x', m.2.Writes u → IsSpace x → IsSpace x' →
      Settles (fields.readMember k state) (x ++ ':' :: (x' ++ u)) (fields.ofMember k m.2 state)) :
    Settles
      (remaining >>= fun left =>
        readMembers (fun key state => fields.readMember key state) (left + 1) true fields.start
          >>= fun state => match fields.complete state with
            | .error m => Reader.refuse m
            | .ok vs => closeObject >>= fun _ => pure vs)
      (t ++ (w ++ ['\x7d']))
      (members.foldlM (fun state m => m.1.read >>= fun k => fields.ofMember k m.2 state) fields.start
        >>= fun state => match fields.complete state with
          | .error m => .error (.mismatch m)
          | .ok vs => .ok vs) := by
  intro ending rest hstop
  have hbound := lt_rounds ht.length_le (w ++ ['\x7d']) rest
  have hread := readMembers_settles hmember fields.start ht hw hbound ending rest
  rw [Reader.bind_eq (remaining_eq ending _)]
  cases hstate : members.foldlM (fun state m => m.1.read >>= fun k => fields.ofMember k m.2 state)
      fields.start with
  | error e =>
    rw [hstate] at hread
    rw [Reader.bind_error hread]
    rfl
  | ok state =>
    rw [hstate] at hread
    rw [Reader.bind_eq hread]
    show (match fields.complete state with
        | .error m => Reader.refuse m
        | .ok vs => closeObject >>= fun _ => pure vs : Reader fields.Values) ending _
      = Except.map _ (match fields.complete state with
        | .error m => Except.error (Fault.mismatch m)
        | .ok vs => Except.ok vs)
    cases fields.complete state with
    | error m => rfl
    | ok vs =>
      show (closeObject >>= fun _ => pure vs) ending (utf8 ['\x7d'] ++ rest) = _
      rw [Reader.bind_eq (closeObject_takes ending rest)]
      rfl

mutual

/-- **Reading a text of a value gives what the value is read as**, be it data or a fault. -/
theorem Shape.read_settles : (s : Shape) → {d : Doc} → {u w : Text} → d.Writes u → IsSpace w →
    Settles s.read (w ++ u) (s.ofDoc d)
  | .text, _, _, _, hu, hw => readWord_settles .text hu hw
  | .boolean, _, _, _, hu, hw => readBoolean_settles hu hw
  | .count, _, _, _, hu, hw => readCount_settles hu hw
  | .nullable s, d, u, w, hu, hw => by
    by_cases hnull : d = .null
    · subst hnull
      exact readNullable_null s.read hu hw
    · have hread := readNullable_settles hu hw hnull
        (Shape.read_settles s (w := []) hu isSpace_nil)
      rw [Shape.ofDoc_nullable hnull]
      exact hread
  | .list s, d, u, w, hu, hw => by
    by_cases hlist : ∃ items, d = .array items
    · obtain ⟨items, rfl⟩ := hlist
      exact readList_settles (fun d _ u hd => Shape.read_settles s (w := []) hd isSpace_nil) hu hw
    · have hdata : (Shape.list s).ofDoc d = d.refuse .sequence := by
        cases d <;> first | exact absurd ⟨_, rfl⟩ hlist | rfl
      rw [hdata]
      refine token_settles hu hw fun c t hcons => ?_
      have hrefused := unexpected_settles (α := List s.Value) .sequence hu
      have hne : c ≠ '[' := fun h => hlist ((hcons ▸ hu).array_or_object.1 h)
      rw [if_neg hne, ← hcons]
      exact hrefused
  | .label labels, _, _, _, hu, hw => readChoice_settles labels hu hw
  | .record title fields, d, u, w, hu, hw => by
    refine token_settles hu hw fun c t hcons => ?_
    by_cases hobject : ∃ members, d = .object members
    · obtain ⟨members, rfl⟩ := hobject
      cases hu with
      | @object _ t' x hmembers hx =>
        obtain ⟨rfl, rfl⟩ := List.cons.inj hcons
        rw [if_pos rfl]
        refine (advance_steps (by decide) _).bind ?_
        exact Fields.readObject_settles hmembers hx fun m _ k state u x x' hm hx hx' =>
          Fields.readMember_settles fields k state hm hx hx'
    by_cases harray : ∃ items, d = .array items
    · obtain ⟨items, rfl⟩ := harray
      cases hu with
      | @array _ t' x hitems hx =>
        obtain ⟨rfl, rfl⟩ := List.cons.inj hcons
        rw [if_neg (by decide), if_pos rfl]
        refine (advance_steps (by decide) _).bind ?_
        exact closeList_settles (Fields.readInOrder_leaves fields title fields.size 0 hitems hx)
    · have hdata : (Shape.record title fields).ofDoc d = d.refuse (.record title) := by
        cases d <;> first
          | exact absurd ⟨_, rfl⟩ hobject
          | exact absurd ⟨_, rfl⟩ harray
          | rfl
      have hrefused := unexpected_settles (α := fields.Values) (.record title) hu
      have hsigns := (hcons ▸ hu).array_or_object
      rw [if_neg fun h => hobject (hsigns.2 h), if_neg fun h => harray (hsigns.1 h), ← hcons, hdata]
      exact hrefused

/-- A member is taken into the fields, passed over, or refused. -/
theorem Fields.readMember_settles : (fs : Fields) → (k : Text) → {d : Doc} → (state : fs.Partial) →
    {u x x' : Text} → d.Writes u → IsSpace x → IsSpace x' →
    Settles (fs.readMember k state) (x ++ ':' :: (x' ++ u)) (fs.ofMember k d state)
  | .nil, k, d, state, u, x, x', hu, hx, hx' => by
    have hsplit : x ++ ':' :: (x' ++ u) = (x ++ [':']) ++ (x' ++ u) := by simp
    rw [hsplit]
    refine (Reader.colon_takes hx).bind_settles ?_
    exact (skipValue_reads hu hx').settles.bind (g := fun _ => .ok state) fun _ => settles_pure state
  | .cons key optional s rest, k, d, (v, vs), u, x, x', hu, hx, hx' => by
    have hsplit : x ++ ':' :: (x' ++ u) = (x ++ [':']) ++ (x' ++ u) := by simp
    have hvalue := (Shape.read_settles s hu hx').map fun v => (some v, vs)
    have hother := (Fields.readMember_settles rest k vs hu hx hx').map fun vs => (v, vs)
    simp only [Fields.readMember, Fields.ofMember]
    split
    · split
      · exact settles_fail _ _
      · rw [hsplit]
        exact (Reader.colon_takes hx).bind_settles hvalue
    · exact hother

/-- The fields of a record are read from the items of a list in their order. -/
theorem Fields.readInOrder_leaves : (fs : Fields) → (title : Text) → (size index : Nat) →
    {items : List Doc} → {t w : Text} → Doc.WritesItems (decide (index = 0)) items t → IsSpace w →
    (ending : Ending) → (bytes : List UInt8) → Leaves bytes (fs.ofItems title size index items)
      (fs.readInOrder title size index ending (utf8 (t ++ (w ++ [']'])) ++ bytes))
  | .nil, _, _, _, _, _, _, ht, hw, _, _ => .items ht hw
  | .cons key optional s rest, title, size, index, [], t, w, ht, hw, ending, bytes => by
    cases ht
    have hmore : moreItems (decide (index = 0)) ending (utf8 ([] ++ (w ++ [']'])) ++ bytes)
        = .ok (false, utf8 ([] ++ ([] ++ [']'])) ++ bytes) := moreItems_none hw ending bytes
    have hnil : Doc.WritesItems (decide (index + 1 = 0)) [] [] := .nil
    have hothers := Fields.readInOrder_leaves rest title size (index + 1) hnil isSpace_nil ending
      bytes
    simp only [Fields.readInOrder, Fields.ofItems]
    rw [Reader.bind_eq hmore]
    cases s.inList optional with
    | none => exact .fault _
    | some v =>
      have hvalues := hothers.map fun vs => (v, vs)
      rw [← Reader.bind_pure_eq] at hvalues
      exact hvalues
  | .cons key optional s rest, title, size, index, d :: items, t, w, ht, hw, ending, bytes => by
    cases ht with
    | @cons _ _ _ u t y y' hy hy' hd hitems =>
      obtain ⟨c, u', hsign, hc, hne, -⟩ := hd.sign
      have hread := Shape.read_settles s (w := []) hd isSpace_nil ending
        (utf8 (t ++ (w ++ [']'])) ++ bytes)
        (hitems.startsComma.stops hw (by decide) (by decide) ending bytes)
      have hothers := Fields.readInOrder_leaves rest title size (index + 1) hitems hw ending bytes
      have hmore := moreItems_more (decide (index = 0)) hy hy' hc hne ending
        (u' ++ (t ++ (w ++ [']']))) bytes
      have hsplit : (comma (decide (index = 0)) y ++ (y' ++ (u ++ t))) ++ (w ++ [']'])
          = comma (decide (index = 0)) y ++ (y' ++ c :: (u' ++ (t ++ (w ++ [']'])))) := by
        rw [hsign]
        simp
      have hback : utf8 (c :: (u' ++ (t ++ (w ++ [']'])))) ++ bytes
          = utf8 ([] ++ u) ++ (utf8 (t ++ (w ++ [']'])) ++ bytes) := by
        rw [List.nil_append, hsign, ← List.cons_append, Text.utf8_append, List.append_assoc]
      rw [hsplit]
      simp only [Fields.readInOrder, Fields.ofItems]
      rw [Reader.bind_eq hmore, if_pos rfl, hback]
      cases hvalue : s.ofDoc d with
      | error e =>
        rw [hvalue] at hread
        rw [Reader.bind_error hread]
        exact .fault e
      | ok v =>
        rw [hvalue] at hread
        rw [Reader.bind_eq hread]
        have hvalues := hothers.map fun vs => (v, vs)
        rw [← Reader.bind_pure_eq] at hvalues
        exact hvalues

end

/-! ## Whole streams -/

/-- **A stream that holds a text of a value is decoded as the value.** -/
theorem Shape.decode_eq_ofDoc (s : Shape) {d : Doc} {t : Text} (ht : d.IsIn t) :
    s.decode (.ofBytes (utf8 t)) = s.ofDoc d := by
  obtain ⟨u, w, w', hu, hw, hw', rfl⟩ := ht
  have hread := Shape.read_settles s hu hw .complete (utf8 w') (stops_of_isSpace hw')
  unfold Shape.decode
  rw [Text.utf8_append]
  show Except.map _ ((s.read >>= fun v => Reader.finish >>= fun _ => pure v) .complete
    (utf8 (w ++ u) ++ utf8 w')) = _
  cases hdata : s.ofDoc d with
  | error e =>
    rw [hdata] at hread
    rw [Reader.bind_error hread]
    rfl
  | ok v =>
    rw [hdata] at hread
    rw [Reader.bind_eq hread, Reader.bind_eq (Reader.finish_eq hw')]
    rfl

end Gazetteer.Json
