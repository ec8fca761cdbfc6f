/-
# Gazetteer.Proofs.Json.CutShort -- a text that is cut short is not read

What is written can be read back; a beginning of it cannot. Wherever the text is cut, inside a word,
a key, an escape or a character, or between two of them, reading comes to the end of the bytes. The
walk is the one of reading back: through the members of the records in the order of the text, with
the keys that were read so far.

A number that is cut may be another number, so this is said of shapes without counts only.
-/
import Gazetteer.Proofs.Json.RoundTrip
import Gazetteer.Proofs.Json.Tracking

namespace Gazetteer.Json

open Storage (Ending)
open Text (utf8)

variable {α β : Type} {a : α} {b : β}

/-! ## Following a text -/

/-- On every beginning of a text and what is behind it, the reader comes to the end, or takes the
text off the front. -/
def Follows (r : Reader α) (t : Text) (a : α) : Prop := ∀ rest, Tracks 0 0 r (utf8 t ++ rest) a rest

theorem Follows.bind {x : Reader α} {f : α → Reader β} {s t : Text} (hx : Follows x s a)
    (hf : Follows (f a) t b) : Follows (x >>= f) (s ++ t) b := by
  intro rest
  rw [Text.utf8_append, List.append_assoc]
  exact (hx _).bind (hf rest)

theorem tracks_sign {w : Text} (hw : IsSpace w) {c : Char} (hc : IsSign c) (t : Text)
    (rest : List UInt8) :
    Tracks 0 1 Reader.token (utf8 (w ++ c :: t) ++ rest) c (utf8 (c :: t) ++ rest) :=
  tracks_token (Reader.token_eq hw hc .complete t rest)

theorem tracks_passed {c : Char} (hc : c.toNat < 0x80) (t : Text) (rest : List UInt8) :
    Tracks 1 0 Reader.advance (utf8 (c :: t) ++ rest) () (utf8 t ++ rest) := by
  have hadvance := tracks_advance (utf8 (c :: t) ++ rest)
  rwa [utf8_cons_ascii hc, List.cons_append, List.tail_cons, ← List.cons_append,
    ← utf8_cons_ascii hc] at hadvance

/-- What a reader does is settled by the sign it finds first, on which it can rely from then on. -/
theorem token_bind_follows {f : Char → Reader β} {w t : Text} {c : Char} (hw : IsSpace w)
    (hc : IsSign c) (hf : ∀ rest, Tracks 1 0 (f c) (utf8 (c :: t) ++ rest) b rest) :
    Follows (Reader.token >>= f) (w ++ c :: t) b :=
  fun rest => (tracks_sign hw hc t rest).bind (hf rest)

/-- The sign is passed over, and what is behind it is followed. -/
theorem advance_bind_tracks {f : Unit → Reader β} {c : Char} (hc : c.toNat < 0x80) {t : Text}
    (hf : Follows (f ()) t b) (rest : List UInt8) :
    Tracks 1 0 (Reader.advance >>= f) (utf8 (c :: t) ++ rest) b rest :=
  (tracks_passed hc t rest).bind (hf rest)

theorem advance_tracks {c : Char} (hc : c.toNat < 0x80) (rest : List UInt8) :
    Tracks 1 0 Reader.advance (utf8 [c] ++ rest) () rest :=
  tracks_passed hc [] rest

theorem word_bind_tracks {t : Text} (ht : ∀ c ∈ t, c.toNat < 0x80) (a : α) (rest : List UInt8) :
    Tracks 1 0 (Reader.word t >>= fun _ => pure a) (utf8 t ++ rest) a rest :=
  ((tracks_word ht rest).bind (tracks_pure 0 a rest)).needing 1

theorem quotedText_follows (t : Text) : Follows quotedText (t.flatMap escapeChar ++ ['"']) t :=
  fun rest => tracks_quotedText (quotedText_takes t .complete rest)

theorem colon_follows {w : Text} (hw : IsSpace w) : Follows Reader.colon (w ++ [':']) () := by
  refine token_bind_follows hw (by decide) fun rest => ?_
  rw [if_pos rfl]
  exact advance_tracks (by decide) rest

theorem closeList_follows : Follows closeList [']'] () := by
  refine token_bind_follows (w := []) isSpace_nil (by decide) fun rest => ?_
  rw [if_pos rfl]
  exact advance_tracks (by decide) rest

theorem closeObject_follows : Follows closeObject ['\x7d'] () := by
  refine token_bind_follows (w := []) isSpace_nil (by decide) fun rest => ?_
  rw [if_pos rfl]
  exact advance_tracks (by decide) rest

/-! ## Plain data -/

theorem readWord_follows (expected : Expected) {t u w : Text} (hu : Spells (.text t) u)
    (hw : IsSpace w) : Follows (readWord expected) (w ++ u) t := by
  cases hu with
  | text t =>
    refine token_bind_follows hw (by decide) fun rest => ?_
    rw [if_pos rfl]
    exact advance_bind_tracks (by decide) (quotedText_follows t) rest

theorem readBoolean_follows {b : Bool} {u w : Text} (hu : Spells (.boolean b) u) (hw : IsSpace w) :
    Follows readBoolean (w ++ u) b := by
  cases hu with
  | boolean b =>
    cases b with
    | true =>
      refine token_bind_follows (c := 't') (t := "rue") hw (by decide) fun rest => ?_
      rw [if_pos rfl]
      exact word_bind_tracks (t := "true") (by decide) true rest
    | false =>
      refine token_bind_follows (c := 'f') (t := "alse") hw (by decide) fun rest => ?_
      rw [if_neg (by decide), if_pos rfl]
      exact word_bind_tracks (t := "false") (by decide) false rest

theorem readNullable_follows {item : Reader α} {write : α → Json} (hne : ∀ a, write a ≠ .null)
    {v : Option α} (hitem : ∀ a, v = some a → ∀ u, Spells (write a) u → Follows item u a)
    {u w : Text} (hu : Spells (v.elim .null write) u) (hw : IsSpace w) :
    Follows (readNullable item) (w ++ u) v := by
  cases v with
  | none =>
    cases hu with
    | null =>
      refine token_bind_follows (c := 'n') (t := "ull") hw (by decide) fun rest => ?_
      rw [if_pos rfl]
      exact word_bind_tracks (t := "null") (by decide) none rest
  | some a =>
    obtain ⟨c, t, hcons, hsign, -, hnull⟩ := hu.sign
    have hread : Follows item u a := hitem a rfl u hu
    rw [hcons] at hread ⊢
    refine token_bind_follows hw hsign fun rest => ?_
    rw [if_neg (hnull (hne a))]
    exact ((hread rest).map some).needing 1

theorem readChoice_follows {labels : List Text} (hlabels : labels.Nodup) (i : Fin labels.length)
    {u w : Text} (hu : Spells (.text (labels.get i)) u) (hw : IsSpace w) :
    Follows (readChoice labels) (w ++ u) i := by
  have hlabel : Follows (readLabel labels) u i := by
    intro rest
    have hword := readWord_follows .label hu isSpace_nil rest
    refine hword.bind ?_
    rw [finIdxOf?_get hlabels]
    exact tracks_pure 0 i rest
  cases hu with
  | text t =>
    refine token_bind_follows (c := '"') hw (by decide) fun rest => ?_
    rw [if_neg (by decide), if_pos rfl]
    exact (hlabel rest).needing 1

/-! ## Lists -/

theorem tracks_moreItems {ending : Ending} {isFirst more : Bool} {u v : List UInt8}
    (h : moreItems isFirst ending u = .ok (more, v)) : Tracks 0 1 (moreItems isFirst) u more v := by
  obtain ⟨sign, m, hsign, h⟩ := Reader.of_bind_eq_ok h
  refine (tracks_token hsign).bind ?_
  by_cases hclose : sign = ']'
  · rw [if_pos hclose] at h ⊢
    obtain ⟨rfl, rfl⟩ := Prod.mk.inj (Except.ok.inj h)
    exact tracks_pure 1 false m
  rw [if_neg hclose] at h ⊢
  by_cases hfirst : isFirst = true
  · rw [if_pos hfirst] at h ⊢
    obtain ⟨rfl, rfl⟩ := Prod.mk.inj (Except.ok.inj h)
    exact tracks_pure 1 true m
  rw [if_neg hfirst] at h ⊢
  by_cases hcomma : sign = ','
  · rw [if_pos hcomma] at h ⊢
    obtain ⟨_, m', hadvance, hbehind⟩ := Reader.of_bind_eq_ok h
    obtain ⟨next, m'', hnext, hlast⟩ := Reader.of_bind_eq_ok hbehind
    obtain rfl : m.tail = m' := (Prod.mk.inj (Except.ok.inj hadvance)).2
    refine (tracks_advance m).bind ((tracks_token hnext).bind ?_)
    by_cases hitem : next = ']'
    · rw [if_pos hitem] at hlast
      cases hlast
    rw [if_neg hitem] at hlast ⊢
    obtain ⟨rfl, rfl⟩ := Prod.mk.inj (Except.ok.inj hlast)
    exact tracks_pure 1 true m''
  · rw [if_neg hcomma] at h
    cases h

/-- What is behind a text that is followed is shorter. -/
theorem length_lt_of_append {left left' missing u v : List UInt8} (hu : u ≠ [])
    (h : u ++ v = left ++ missing) (hv : v = left' ++ missing) : left'.length < left.length := by
  have hlength := congrArg List.length h
  have hpos := List.length_pos_iff.mpr hu
  subst hv
  simp only [List.length_append] at hlength
  omega

theorem utf8_ne_nil {t : Text} (h : t ≠ []) : utf8 t ≠ [] := by
  have hle := Text.length_le_utf8 t
  have hpos := List.length_pos_iff.mpr h
  intro hnil
  rw [hnil, List.length_nil] at hle
  omega

/-- The loop of a list on a beginning of the items, in which there are fewer bytes than rounds. -/
theorem readItems_meets {item : Reader α} {write : α → Json} {vs : List α}
    (hitem : ∀ v ∈ vs, ∀ u, Spells (write v) u → Follows item u v) {isFirst : Bool} {t w : Text}
    (ht : SpellsItems isFirst (vs.map write) t) (hw : IsSpace w) {ending : Ending}
    {cut missing rest : List UInt8} (hcut : utf8 (t ++ (w ++ [']'])) ++ rest = cut ++ missing)
    {bound : Nat} (hbound : cut.length < bound) :
    Meets ending missing 0 vs (utf8 [']'] ++ rest) (readItems item bound isFirst ending cut) := by
  -- The induction is on the items to come. An item that is there takes a byte at least, so that
  -- there are rounds enough for what is left.
  induction vs generalizing isFirst t bound cut with
  | nil =>
    cases ht
    obtain ⟨bound, rfl⟩ : ∃ others, bound = others + 1 := ⟨bound - 1, by omega⟩
    have hmore : Tracks 0 1 (moreItems isFirst) (utf8 (w ++ [']']) ++ rest) false
        (utf8 [']'] ++ rest) :=
      tracks_moreItems (moreItems_none hw .complete rest)
    refine (hmore ending cut missing hcut (Nat.zero_le _)).bind fun left hleft _ => ?_
    rw [if_neg Bool.false_ne_true]
    exact .inr ⟨left, hleft, Nat.zero_le _, rfl⟩
  | cons v vs ih =>
    obtain ⟨bound, rfl⟩ : ∃ others, bound = others + 1 := ⟨bound - 1, by omega⟩
    cases ht with
    | @cons _ _ _ u t x x' hx hx' hv hvs =>
      obtain ⟨c, u', hsign, hc, hne, -⟩ := hv.sign
      let behind := t ++ (w ++ [']'])
      let front := comma isFirst x ++ (x' ++ u)
      have hmore := tracks_moreItems
        (moreItems_more isFirst hx hx' hc hne .complete (u' ++ behind) rest)
      have hfront : comma isFirst x ++ (x' ++ c :: (u' ++ behind)) = front ++ behind := by
        simp [front, hsign]
      have hback : utf8 (c :: (u' ++ behind)) ++ rest = utf8 u ++ (utf8 behind ++ rest) := by
        rw [hsign, ← List.cons_append, Text.utf8_append, List.append_assoc]
      have hsplit : (comma isFirst x ++ (x' ++ (u ++ t))) ++ (w ++ [']']) = front ++ behind := by
        simp [front, behind]
      have hnil : front ≠ [] := by simp [front, hsign]
      rw [hfront, hback] at hmore
      rw [hsplit] at hcut
      refine (hmore ending cut missing hcut (Nat.zero_le _)).bind fun left hleft _ => ?_
      rw [if_pos rfl]
      have hread := hitem v (by simp) u hv _ ending left missing hleft (Nat.zero_le _)
      refine hread.bind fun left hleft _ => ?_
      have hrounds : left.length < bound := by
        rw [Text.utf8_append, List.append_assoc] at hcut
        have hshorter := length_lt_of_append (utf8_ne_nil hnil) hcut hleft
        omega
      exact (ih (fun y hy => hitem y (List.mem_cons_of_mem _ hy)) hvs hleft hrounds).map _

theorem readList_follows {item : Reader α} {write : α → Json} {vs : List α}
    (hitem : ∀ v ∈ vs, ∀ u, Spells (write v) u → Follows item u v) {u w : Text}
    (hu : Spells (.array (vs.map write)) u) (hw : IsSpace w) :
    Follows (readList item) (w ++ u) vs := by
  cases hu with
  | @array _ t x ht hx =>
    refine token_bind_follows hw (by decide) fun rest => ?_
    rw [if_pos rfl]
    refine advance_bind_tracks (by decide) (fun rest => ?_) rest
    intro ending cut missing hcut _
    have hbound : cut.length < cut.length + 1 := Nat.lt_succ_self _
    rw [Reader.bind_eq (remaining_eq ending cut)]
    refine (readItems_meets hitem ht hx hcut hbound).bind fun left hleft _ => ?_
    have hclose : Tracks 0 0 (closeList >>= fun _ => pure vs) (utf8 [']'] ++ rest) vs rest :=
      (closeList_follows rest).bind (tracks_pure 0 vs rest)
    exact hclose ending left missing hleft (Nat.zero_le _)

/-! ## Objects -/

theorem tracks_moreMembers {ending : Ending} {isFirst more : Bool} {u v : List UInt8}
    (h : moreMembers isFirst ending u = .ok (more, v)) :
    Tracks 0 1 (moreMembers isFirst) u more v := by
  obtain ⟨sign, m, hsign, h⟩ := Reader.of_bind_eq_ok h
  refine (tracks_token hsign).bind ?_
  by_cases hclose : sign = '\x7d'
  · rw [if_pos hclose] at h ⊢
    obtain ⟨rfl, rfl⟩ := Prod.mk.inj (Except.ok.inj h)
    exact tracks_pure 1 false m
  rw [if_neg hclose] at h ⊢
  by_cases hfirst : isFirst = true
  · rw [if_pos hfirst] at h ⊢
    by_cases hquote : sign = '"'
    · rw [if_pos hquote] at h ⊢
      obtain ⟨rfl, rfl⟩ := Prod.mk.inj (Except.ok.inj h)
      exact tracks_pure 1 true m
    · rw [if_neg hquote] at h
      cases h
  rw [if_neg hfirst] at h ⊢
  by_cases hcomma : sign = ','
  · rw [if_pos hcomma] at h ⊢
    obtain ⟨_, m', hadvance, hbehind⟩ := Reader.of_bind_eq_ok h
    obtain ⟨next, m'', hnext, hlast⟩ := Reader.of_bind_eq_ok hbehind
    obtain rfl : m.tail = m' := (Prod.mk.inj (Except.ok.inj hadvance)).2
    refine (tracks_advance m).bind ((tracks_token hnext).bind ?_)
    by_cases hquote : next = '"'
    · rw [if_pos hquote] at hlast ⊢
      obtain ⟨rfl, rfl⟩ := Prod.mk.inj (Except.ok.inj hlast)
      exact tracks_pure 1 true m''
    · rw [if_neg hquote] at hlast
      cases hlast
  · rw [if_neg hcomma] at h
    cases h

/-- The loop of an object on a beginning of the members, in which there are fewer bytes than
rounds. -/
theorem readMembers_meets {σ : Type} {member : Text → σ → Reader σ} (state : List Text → σ)
    {members : List (Text × Json)}
    (hmember : ∀ key v, (key, v) ∈ members → ∀ seen, key ∉ seen → ∀ u x x', Spells v u →
      IsSpace x → IsSpace x' →
      Follows (member key (state seen)) (x ++ ':' :: (x' ++ u)) (state (key :: seen)))
    (hkeys : (members.map (·.1)).Nodup) (seen : List Text)
    (hseen : ∀ key ∈ members.map (·.1), key ∉ seen) {isFirst : Bool} {t w : Text}
    (ht : SpellsMembers isFirst members t) (hw : IsSpace w) (ending : Ending)
    {cut missing rest : List UInt8}
    (hcut : utf8 (t ++ (w ++ ['\x7d'])) ++ rest = cut ++ missing) {bound : Nat}
    (hbound : cut.length < bound) :
    Meets ending missing 0 (state ((members.map (·.1)).reverse ++ seen)) (utf8 ['\x7d'] ++ rest)
      (readMembers member bound isFirst (state seen) ending cut) := by
  induction members generalizing seen isFirst t bound cut with
  | nil =>
    cases ht
    obtain ⟨bound, rfl⟩ : ∃ others, bound = others + 1 := ⟨bound - 1, by omega⟩
    have hmore : Tracks 0 1 (moreMembers isFirst) (utf8 (w ++ ['\x7d']) ++ rest) false
        (utf8 ['\x7d'] ++ rest) :=
      tracks_moreMembers (moreMembers_none hw .complete rest)
    refine (hmore ending cut missing hcut (Nat.zero_le _)).bind fun left hleft _ => ?_
    rw [if_neg Bool.false_ne_true]
    exact .inr ⟨left, hleft, Nat.zero_le _, rfl⟩
  | cons first members ih =>
    obtain ⟨bound, rfl⟩ : ∃ others, bound = others + 1 := ⟨bound - 1, by omega⟩
    cases ht with
    | @cons _ key v _ u t y y' x x' hy hy' hx hx' hv hmembers =>
      obtain ⟨hfresh, hkeys⟩ := List.nodup_cons.mp hkeys
      have hkey : key ∉ seen := hseen key (by simp)
      have hunseen : ∀ k ∈ members.map (·.1), k ∉ key :: seen := by
        intro k hk
        rw [List.mem_cons, not_or]
        exact ⟨fun heq => hfresh (heq ▸ hk), hseen k (List.mem_cons_of_mem _ hk)⟩
      let behind := t ++ (w ++ ['\x7d'])
      let name := key.flatMap escapeChar ++ ['"']
      let value := x ++ ':' :: (x' ++ u)
      let front := comma isFirst y ++ (y' ++ (quoted key ++ value))
      have hmore := tracks_moreMembers
        (moreMembers_more isFirst hy hy' .complete (name ++ (value ++ behind)) rest)
      have hfront : comma isFirst y ++ (y' ++ '"' :: (name ++ (value ++ behind)))
          = front ++ behind := by
        simp [front, quoted, name]
      have hsplit : (comma isFirst y ++ (y' ++ (quoted key ++ (value ++ t)))) ++ (w ++ ['\x7d'])
          = front ++ behind := by
        simp [front, behind]
      have hnil : front ≠ [] := by simp [front, quoted]
      rw [hfront] at hmore
      rw [hsplit] at hcut
      refine (hmore ending cut missing hcut (Nat.zero_le _)).bind fun left hleft hthere => ?_
      rw [if_pos rfl]
      have hquote := tracks_passed (c := '"') (by decide) (name ++ (value ++ behind)) rest
      refine (hquote ending left missing hleft hthere).bind fun left hleft _ => ?_
      rw [Text.utf8_append, List.append_assoc] at hleft
      have hname := quotedText_follows key _ ending left missing hleft (Nat.zero_le _)
      refine hname.bind fun left hleft _ => ?_
      rw [Text.utf8_append, List.append_assoc] at hleft
      have hvalue := hmember key v (by simp) seen hkey u x x' hv hx hx' _ ending left missing hleft
        (Nat.zero_le _)
      refine hvalue.bind fun left hleft _ => ?_
      have hrounds : left.length < bound := by
        rw [Text.utf8_append, List.append_assoc] at hcut
        have hshorter := length_lt_of_append (utf8_ne_nil hnil) hcut hleft
        omega
      have hothers := ih (fun k j hk => hmember k j (List.mem_cons_of_mem _ hk)) hkeys
        (key :: seen) hunseen hmembers hleft hrounds
      have hread : ((key, v) :: members).map (·.1) = key :: members.map (·.1) := rfl
      rwa [hread, List.reverse_cons, List.append_assoc, List.singleton_append]

/-! ## Shapes -/

theorem Fields.complete_follows {title : Text} {fields : Fields} {vs : fields.Values}
    (hmember : ∀ key v, (key, v) ∈ fields.encodeMembers vs → ∀ seen, key ∉ seen →
      ∀ u x x', Spells v u → IsSpace x → IsSpace x' →
      Follows (fields.readMember key (fields.holding vs seen)) (x ++ ':' :: (x' ++ u))
        (fields.holding vs (key :: seen)))
    (hsound : fields.isSound = true) {u w : Text}
    (hu : Spells (.object (fields.encodeMembers vs)) u) (hw : IsSpace w) :
    Follows (Shape.record title fields).read (w ++ u) vs := by
  cases hu with
  | @object _ t x ht hx =>
    refine token_bind_follows hw (by decide) fun rest => ?_
    rw [if_pos rfl]
    refine advance_bind_tracks (by decide) (fun rest => ?_) rest
    intro ending cut missing hcut _
    have hkeys : (fields.encodeMembers vs).map (·.1) = fields.keys := fields.keys_encodeMembers vs
    have hbound : cut.length < cut.length + 1 := Nat.lt_succ_self _
    have hmembers := readMembers_meets (fields.holding vs) hmember
      (hkeys ▸ fields.nodup_keys hsound) [] (by simp) ht hx ending hcut hbound
    have hcomplete : fields.complete
        (fields.holding vs (((fields.encodeMembers vs).map (·.1)).reverse ++ [])) = .ok vs := by
      refine fields.complete_holding vs fun key hkey => ?_
      rw [List.append_nil, List.mem_reverse, hkeys]
      exact hkey
    rw [fields.holding_nil vs] at hmembers
    rw [Reader.bind_eq (remaining_eq ending cut)]
    refine hmembers.bind fun left hleft _ => ?_
    rw [hcomplete]
    have hclose : Tracks 0 0 (closeObject >>= fun _ => pure vs) (utf8 ['\x7d'] ++ rest) vs rest :=
      (closeObject_follows rest).bind (tracks_pure 0 vs rest)
    exact hclose ending left missing hleft (Nat.zero_le _)

mutual

/-- **A cut is noticed**: on a beginning of any spelling of some data, reading comes to the end. -/
theorem Shape.read_follows : (s : Shape) → s.isSound = true → s.isCountFree = true →
    (v : s.Value) → {u w : Text} → Spells (s.encode v) u → IsSpace w → Follows s.read (w ++ u) v
  | .text, _, _, _, _, _, hu, hw => readWord_follows .text hu hw
  | .boolean, _, _, _, _, _, hu, hw => readBoolean_follows hu hw
  | .count, _, hfree, _, _, _, _, _ => absurd hfree (by simp [Shape.isCountFree])
  | .nullable s, hsound, hfree, v, u, w, hu, hw => by
    simp only [Shape.isSound, Bool.and_eq_true, Bool.not_eq_true'] at hsound
    have hwritten : Spells (Option.elim v .null s.encode) u := by
      cases v <;> exact hu
    refine readNullable_follows (Shape.encode_ne_null hsound.1) ?_ hwritten hw
    intro a ha u hu
    exact Shape.read_follows s hsound.2 hfree a (w := []) hu isSpace_nil
  | .list s, hsound, hfree, vs, u, w, hu, hw => by
    refine readList_follows ?_ hu hw
    intro v hv u hu
    exact Shape.read_follows s hsound hfree v (w := []) hu isSpace_nil
  | .label labels, hsound, _, i, _, _, hu, hw =>
    readChoice_follows (of_decide_eq_true hsound) i hu hw
  | .record _ fields, hsound, hfree, vs, _, _, hu, hw =>
    Fields.complete_follows
      (fun _ _ hmem _ hseen _ _ _ hu hx hx' =>
        Fields.readMember_follows fields hsound hfree vs hmem hseen hu hx hx')
      hsound hu hw

theorem Fields.readMember_follows : (fs : Fields) → fs.isSound = true → fs.areCountFree = true →
    (vs : fs.Values) → {key : Text} → {v : Json} → (key, v) ∈ fs.encodeMembers vs →
    {seen : List Text} → key ∉ seen → {u x x' : Text} → Spells v u → IsSpace x → IsSpace x' →
    Follows (fs.readMember key (fs.holding vs seen)) (x ++ ':' :: (x' ++ u))
      (fs.holding vs (key :: seen))
  | .nil, _, _, _, _, _, hmem, _, _, _, _, _, _, _, _ =>
    absurd hmem (by simp [Fields.encodeMembers])
  | .cons k optional s rest, hsound, hfree, vs, key, v, hmem, seen, hseen, u, x, x',
    hu, hx, hx' => by
    simp only [Fields.isSound, Bool.and_eq_true, Bool.not_eq_true', List.contains_eq_mem,
      decide_eq_false_iff_not] at hsound
    rw [Fields.areCountFree, Bool.and_eq_true] at hfree
    obtain ⟨⟨hfresh, hs⟩, hrest⟩ := hsound
    by_cases hk : key = k
    -- The member is the first field, which was not read before; the others stay as they are.
    · subst hk
      have hv : v = s.encode vs.1 := by
        rcases List.mem_cons.mp hmem with heq | hmem
        · exact (Prod.mk.inj heq).2
        · have hkey : key ∈ rest.keys :=
            rest.keys_encodeMembers vs.2 ▸ List.mem_map_of_mem hmem
          exact absurd hkey hfresh
      subst hv
      have hread : Follows s.read (x' ++ u) vs.1 := Shape.read_follows s hs hfree.1 vs.1 hu hx'
      have hmember : Follows (Reader.colon >>= fun _ => s.read >>= fun v =>
            (pure (some v, rest.holding vs.2 seen) : Reader (Option s.Value × rest.Partial)))
          ((x ++ [':']) ++ (x' ++ u)) (some vs.1, rest.holding vs.2 seen) :=
        (colon_follows hx).bind fun bytes => (hread bytes).bind (tracks_pure 0 _ bytes)
      rw [List.append_assoc, List.singleton_append] at hmember
      simp only [Fields.holding, Fields.readMember, if_neg hseen, if_pos List.mem_cons_self,
        if_true, Option.isSome_none, Bool.false_eq_true, if_false,
        rest.holding_cons_of_notMem vs.2 hfresh seen]
      exact hmember
    -- The member is one of the other fields; the first stays as it is.
    · have hmem : (key, v) ∈ rest.encodeMembers vs.2 := by
        rcases List.mem_cons.mp hmem with heq | hmem
        · exact absurd (Prod.mk.inj heq).1 hk
        · exact hmem
      have hread := Fields.readMember_follows rest hrest hfree.2 vs.2 hmem hseen hu hx hx'
      have hother : (k ∈ key :: seen) = (k ∈ seen) := by simp [Ne.symm hk]
      intro bytes
      simp only [Fields.holding, Fields.readMember, if_neg hk, hother]
      exact (hread bytes).bind (tracks_pure 0 _ bytes)

end

/-! ## Whole streams -/

/-- A stream that ends before the text does, or breaks off behind it, is not read: the fault is that
of its end. -/
theorem Shape.decode_cut {s : Shape} (hsound : s.isSound = true) (hfree : s.isCountFree = true)
    {v : s.Value} {t w : Text} (ht : Spells (s.encode v) t) (hw : IsSpace w)
    {stream : Storage.Stream} (hbytes : stream.bytes <+: utf8 (w ++ t))
    (hshort : stream.bytes = utf8 (w ++ t) → stream.ending ≠ .complete) :
    s.decode stream = .error (.atEnd stream.ending) := by
  obtain ⟨missing, hmissing⟩ := hbytes
  have hfollows := Shape.read_follows s hsound hfree v ht hw []
  rw [List.append_nil] at hfollows
  have hread := hfollows stream.ending stream.bytes missing hmissing.symm (Nat.zero_le _)
  unfold Shape.decode
  rcases hread with hend | ⟨left, hleft, -, hread⟩
  · rw [Reader.bind_error hend]
    rfl
  -- Nothing is left of a whole text, so it is the end of the stream that is met behind it.
  · obtain ⟨rfl, rfl⟩ := List.append_eq_nil_iff.mp hleft.symm
    rw [List.append_nil] at hmissing
    have hbroken := hshort hmissing
    rw [Reader.bind_eq hread]
    cases hending : stream.ending with
    | complete => exact absurd hending hbroken
    | broken failure => rfl

theorem Form.decode_cut {f : Form α} (hsound : f.shape.isSound = true)
    (hfree : f.shape.isCountFree = true) {t w : Text} (ht : Spells (f.toJson a) t) (hw : IsSpace w)
    {stream : Storage.Stream} (hbytes : stream.bytes <+: utf8 (w ++ t))
    (hshort : stream.bytes = utf8 (w ++ t) → stream.ending ≠ .complete) :
    f.decode stream = .error (.atEnd stream.ending) := by
  rw [Form.decode, Shape.decode_cut hsound hfree ht hw hbytes hshort]
  rfl

end Gazetteer.Json
