/-
# Gazetteer.Proofs.Json.Listing -- items and members one after the other

Lists and objects are read by one loop each. Before every item the loop looks for the closing
bracket or the comma; the item is then read by whatever reads one item. If that reader reads every
item of a list from all of its spellings, the loop reads the list from all of its spellings. The
loop of an object carries along what was read so far, and a member may depend on it.
-/
import Gazetteer.Proofs.Json.Quoted
import Gazetteer.Proofs.Json.Spelling

namespace Gazetteer.Json

open Storage (Ending)
open Text (utf8 numeral isDigit_of_mem_numeral)

/-! ## First signs -/

/-- A spelling starts with a sign that closes no list; only null starts with its letter. -/
theorem Spells.sign {v : Json} {u : Text} (h : Spells v u) :
    ∃ c t, u = c :: t ∧ IsSign c ∧ c ≠ ']' ∧ (v ≠ .null → c ≠ 'n') := by
  cases h with
  | null => exact ⟨'n', "ull", rfl, by decide, by decide, fun h => absurd rfl h⟩
  | boolean b =>
    cases b with
    | false => exact ⟨'f', "alse", rfl, by decide, by decide, fun _ => by decide⟩
    | true => exact ⟨'t', "rue", rfl, by decide, by decide, fun _ => by decide⟩
  | number n =>
    obtain ⟨c, t, hcons⟩ := List.exists_cons_of_ne_nil (Nat.toDigits_ne_nil (n := n) (b := 10))
    have hc : c.isDigit = true := isDigit_of_mem_numeral (n := n) (by simp [numeral, hcons])
    -- A numeral starts with a digit, and none of the signs in question is one.
    have hnot : ∀ d : Char, d.isDigit = false → c ≠ d := by
      rintro d hd rfl
      rw [hc] at hd
      exact absurd hd (by decide)
    refine ⟨c, t, hcons, ⟨digit_ascii hc, ?_⟩, hnot ']' (by decide),
      fun _ => hnot 'n' (by decide)⟩
    simp [hnot ' ' (by decide), hnot '\n' (by decide), hnot '\t' (by decide),
      hnot '\r' (by decide)]
  | text t => exact ⟨'"', _, rfl, by decide, by decide, fun _ => by decide⟩
  | array _ _ => exact ⟨'[', _, rfl, by decide, by decide, fun _ => by decide⟩
  | object _ _ => exact ⟨'\x7b', _, rfl, by decide, by decide, fun _ => by decide⟩

/-! ## What follows an item -/

/-- The text is empty or starts with a comma behind white space. -/
def StartsComma (t : Text) : Prop := t = [] ∨ ∃ w t', IsSpace w ∧ t = w ++ ',' :: t'

theorem SpellsItems.startsComma {items : List Json} {t : Text} (h : SpellsItems false items t) :
    StartsComma t := by
  cases h with
  | nil => exact Or.inl rfl
  | @cons _ _ _ u t w w' hw _ _ _ =>
    exact Or.inr ⟨w, w' ++ (u ++ t), hw, by simp [comma]⟩

theorem SpellsMembers.startsComma {members : List (Text × Json)} {t : Text}
    (h : SpellsMembers false members t) : StartsComma t := by
  cases h with
  | nil => exact Or.inl rfl
  | @cons _ key _ _ u t w w' x x' hw _ _ _ _ _ =>
    exact Or.inr ⟨w, w' ++ (quoted key ++ ((x ++ ':' :: (x' ++ u)) ++ t)), hw, by simp [comma]⟩

theorem continuesNumber_of_space {c : Char} (h : c ∈ [' ', '\n', '\t', '\r']) :
    continuesNumber c = false := by
  simp only [List.mem_cons, List.not_mem_nil, or_false] at h
  rcases h with rfl | rfl | rfl | rfl <;> decide

theorem stops_space {w : Text} (hw : IsSpace w) {c : Char} (hc : c.toNat < 0x80)
    (hstop : continuesNumber c = false) (ending : Ending) (t : Text) (rest : List UInt8) :
    Stops ending (utf8 (w ++ c :: t) ++ rest) := by
  cases w with
  | nil => exact stops_sign hc hstop ending t rest
  | cons d w =>
    have hd := hw d (by simp)
    exact stops_sign (isSpace_of_mem hd).1 (continuesNumber_of_space hd) ending _ rest

/-- The comma or closing bracket behind an item ends a number. -/
theorem StartsComma.stops {t : Text} (h : StartsComma t) {w : Text} (hw : IsSpace w) {c : Char}
    (hc : c.toNat < 0x80) (hstop : continuesNumber c = false) (ending : Ending)
    (rest : List UInt8) : Stops ending (utf8 (t ++ (w ++ [c])) ++ rest) := by
  rcases h with rfl | ⟨x, t', hx, rfl⟩
  · exact stops_space hw hc hstop ending [] rest
  · rw [List.append_assoc]
    exact stops_space hx (by decide) (by decide) ending _ rest

/-! ## Rounds -/

/-- The rounds of a loop are bounded by the bytes that are left. -/
theorem remaining_eq (ending : Ending) (bytes : List UInt8) :
    remaining ending bytes = .ok (bytes.length, bytes) := rfl

/-- There are more rounds than characters, and so than items. -/
theorem lt_rounds {n : Nat} {t : Text} (h : n ≤ t.length) (close : Text) (rest : List UInt8) :
    n < (utf8 (t ++ close) ++ rest).length + 1 := by
  have hbytes := Text.length_le_utf8 (t ++ close)
  rw [List.length_append] at hbytes ⊢
  omega

/-! ## Lists -/

variable {α : Type}

theorem moreItems_more (isFirst : Bool) {w w' : Text} (hw : IsSpace w) (hw' : IsSpace w')
    {c : Char} (hc : IsSign c) (hne : c ≠ ']') (ending : Ending) (t : Text) (rest : List UInt8) :
    moreItems isFirst ending (utf8 (comma isFirst w ++ (w' ++ c :: t)) ++ rest)
      = .ok (true, utf8 (c :: t) ++ rest) := by
  cases isFirst with
  | true =>
    show moreItems true ending (utf8 (w' ++ c :: t) ++ rest) = _
    rw [moreItems, Reader.bind_eq (Reader.token_eq hw' hc ending t rest), if_neg hne, if_pos rfl]
    rfl
  | false =>
    have hsplit : comma false w ++ (w' ++ c :: t) = w ++ ',' :: (w' ++ c :: t) := by simp [comma]
    rw [hsplit, moreItems, Reader.bind_eq (Reader.token_eq hw (by decide) ending _ rest),
      if_neg (by decide), if_neg (by decide), if_pos rfl,
      Reader.bind_eq (Reader.advance_eq (by decide) ending _ rest),
      Reader.bind_eq (Reader.token_eq hw' hc ending t rest), if_neg hne]
    rfl

theorem moreItems_none {isFirst : Bool} {w : Text} (hw : IsSpace w) (ending : Ending)
    (rest : List UInt8) :
    moreItems isFirst ending (utf8 (w ++ [']']) ++ rest) = .ok (false, utf8 [']'] ++ rest) := by
  rw [moreItems, Reader.bind_eq (Reader.token_eq hw (by decide) ending [] rest), if_pos rfl]
  rfl

theorem SpellsItems.length_le {isFirst : Bool} {items : List Json} {t : Text}
    (h : SpellsItems isFirst items t) : items.length ≤ t.length := by
  induction items generalizing isFirst t with
  | nil => exact Nat.zero_le _
  | cons v items ih =>
    cases h with
    | cons _ _ hv hitems =>
      obtain ⟨c, u', rfl, -⟩ := hv.sign
      have hrest := ih hitems
      simp only [List.length_append, List.length_cons]
      omega

/-- The loop of a list reads all items, if there is a reader for each. -/
theorem readItems_eq {item : Reader α} {write : α → Json} {vs : List α}
    (hitem : ∀ v ∈ vs, ∀ u, Spells (write v) u → Reads item u v) {isFirst : Bool} {t w : Text}
    (ht : SpellsItems isFirst (vs.map write) t) (hw : IsSpace w) {bound : Nat}
    (hbound : vs.length < bound) (ending : Ending) (rest : List UInt8) :
    readItems item bound isFirst ending (utf8 (t ++ (w ++ [']'])) ++ rest)
      = .ok (vs, utf8 [']'] ++ rest) := by
  -- The induction is on the items to come; only the first of all has no comma in front.
  induction vs generalizing isFirst t bound with
  | nil =>
    cases ht
    obtain ⟨bound, rfl⟩ := Nat.exists_eq_succ_of_ne_zero (Nat.ne_of_gt hbound)
    rw [List.nil_append, readItems, Reader.bind_eq (moreItems_none hw ending rest)]
    rfl
  | cons v vs ih =>
    obtain ⟨bound, rfl⟩ := Nat.exists_eq_succ_of_ne_zero (Nat.ne_of_gt (Nat.zero_lt_of_lt hbound))
    cases ht with
    | @cons _ _ _ u t x x' hx hx' hv hvs =>
      obtain ⟨c, u', hsign, hc, hne, -⟩ := hv.sign
      have hread : item ending (utf8 u ++ (utf8 (t ++ (w ++ [']'])) ++ rest))
          = .ok (v, utf8 (t ++ (w ++ [']'])) ++ rest) :=
        hitem v (by simp) u hv ending _ (hvs.startsComma.stops hw (by decide) (by decide) ending rest)
      have hothers := ih (fun y hy => hitem y (List.mem_cons_of_mem _ hy)) hvs
        (Nat.lt_of_succ_lt_succ hbound)
      have hmore := moreItems_more isFirst hx hx' hc hne ending (u' ++ (t ++ (w ++ [']']))) rest
      have hsplit : (comma isFirst x ++ (x' ++ (u ++ t))) ++ (w ++ [']'])
          = comma isFirst x ++ (x' ++ c :: (u' ++ (t ++ (w ++ [']'])))) := by
        rw [hsign]
        simp
      have hback : utf8 (c :: (u' ++ (t ++ (w ++ [']'])))) ++ rest
          = utf8 u ++ (utf8 (t ++ (w ++ [']'])) ++ rest) := by
        rw [hsign, ← List.cons_append, Text.utf8_append, List.append_assoc]
      rw [hsplit, readItems, Reader.bind_eq hmore, if_pos rfl, hback, Reader.bind_eq hread]
      exact Reader.map_eq hothers _

theorem closeList_takes : Takes closeList [']'] () := by
  refine Reader.token_bind_takes (w := []) isSpace_nil (by decide) ?_
  rw [if_pos rfl]
  exact Reader.advance_takes (by decide)

/-- A list is read from all its spellings. -/
theorem readList_takes {item : Reader α} {write : α → Json} {vs : List α}
    (hitem : ∀ v ∈ vs, ∀ u, Spells (write v) u → Reads item u v) {u w : Text}
    (hu : Spells (.array (vs.map write)) u) (hw : IsSpace w) :
    Takes (readList item) (w ++ u) vs := by
  cases hu with
  | @array _ t x ht hx =>
    refine Reader.token_bind_takes hw (by decide) ?_
    intro ending rest
    have hitems : vs.length ≤ t.length := by
      have hle := ht.length_le
      rwa [List.length_map] at hle
    have hbound := lt_rounds hitems (x ++ [']']) rest
    rw [if_pos rfl, Reader.bind_eq (Reader.advance_eq (by decide) ending _ rest),
      Reader.bind_eq (remaining_eq ending _),
      Reader.bind_eq (readItems_eq hitem ht hx hbound ending rest),
      Reader.bind_eq (closeList_takes ending rest)]
    rfl

/-! ## Objects -/

theorem moreMembers_more (isFirst : Bool) {w w' : Text} (hw : IsSpace w) (hw' : IsSpace w')
    (ending : Ending) (t : Text) (rest : List UInt8) :
    moreMembers isFirst ending (utf8 (comma isFirst w ++ (w' ++ '"' :: t)) ++ rest)
      = .ok (true, utf8 ('"' :: t) ++ rest) := by
  cases isFirst with
  | true =>
    show moreMembers true ending (utf8 (w' ++ '"' :: t) ++ rest) = _
    rw [moreMembers, Reader.bind_eq (Reader.token_eq hw' (by decide) ending t rest),
      if_neg (by decide), if_pos rfl, if_pos rfl]
    rfl
  | false =>
    have hsplit : comma false w ++ (w' ++ '"' :: t) = w ++ ',' :: (w' ++ '"' :: t) := by simp [comma]
    rw [hsplit, moreMembers, Reader.bind_eq (Reader.token_eq hw (by decide) ending _ rest),
      if_neg (by decide), if_neg (by decide), if_pos rfl,
      Reader.bind_eq (Reader.advance_eq (by decide) ending _ rest),
      Reader.bind_eq (Reader.token_eq hw' (by decide) ending t rest), if_pos rfl]
    rfl

theorem moreMembers_none {isFirst : Bool} {w : Text} (hw : IsSpace w) (ending : Ending)
    (rest : List UInt8) :
    moreMembers isFirst ending (utf8 (w ++ ['\x7d']) ++ rest)
      = .ok (false, utf8 ['\x7d'] ++ rest) := by
  rw [moreMembers, Reader.bind_eq (Reader.token_eq hw (by decide) ending [] rest), if_pos rfl]
  rfl

theorem SpellsMembers.length_le {isFirst : Bool} {members : List (Text × Json)} {t : Text}
    (h : SpellsMembers isFirst members t) : members.length ≤ t.length := by
  induction members generalizing isFirst t with
  | nil => exact Nat.zero_le _
  | cons member members ih =>
    cases h with
    | cons _ _ _ _ _ hmembers =>
      have hrest := ih hmembers
      simp only [List.length_append, List.length_cons, quoted]
      omega

/-- The loop of an object reads all members, if there is a reader for each that takes what was read
under some keys to what was read under one key more. -/
theorem readMembers_eq {σ : Type} {member : Text → σ → Reader σ} (state : List Text → σ)
    {members : List (Text × Json)}
    (hmember : ∀ key v, (key, v) ∈ members → ∀ seen, key ∉ seen → ∀ u x x', Spells v u →
      IsSpace x → IsSpace x' →
      Reads (member key (state seen)) (x ++ ':' :: (x' ++ u)) (state (key :: seen)))
    (hkeys : (members.map (·.1)).Nodup) (seen : List Text)
    (hseen : ∀ key ∈ members.map (·.1), key ∉ seen) {isFirst : Bool} {t w : Text}
    (ht : SpellsMembers isFirst members t) (hw : IsSpace w) {bound : Nat}
    (hbound : members.length < bound) (ending : Ending) (rest : List UInt8) :
    readMembers member bound isFirst (state seen) ending (utf8 (t ++ (w ++ ['\x7d'])) ++ rest)
      = .ok (state ((members.map (·.1)).reverse ++ seen), utf8 ['\x7d'] ++ rest) := by
  -- The induction is on the members to come. What was read before grows by one key a round, and
  -- keys differ, so that no key is read twice.
  induction members generalizing seen isFirst t bound with
  | nil =>
    cases ht
    obtain ⟨bound, rfl⟩ := Nat.exists_eq_succ_of_ne_zero (Nat.ne_of_gt hbound)
    rw [List.nil_append, readMembers, Reader.bind_eq (moreMembers_none hw ending rest)]
    rfl
  | cons first members ih =>
    obtain ⟨bound, rfl⟩ := Nat.exists_eq_succ_of_ne_zero (Nat.ne_of_gt (Nat.zero_lt_of_lt hbound))
    cases ht with
    | @cons _ key v _ u t y y' x x' hy hy' hx hx' hv hmembers =>
      obtain ⟨hfresh, hkeys⟩ := List.nodup_cons.mp hkeys
      have hkey : key ∉ seen := hseen key (by simp)
      let behind := t ++ (w ++ ['\x7d'])
      let value := x ++ ':' :: (x' ++ u)
      have hread : member key (state seen) ending (utf8 value ++ (utf8 behind ++ rest))
          = .ok (state (key :: seen), utf8 behind ++ rest) :=
        hmember key v (by simp) seen hkey u x x' hv hx hx' ending _
          (hmembers.startsComma.stops hw (by decide) (by decide) ending rest)
      have hname : quotedText ending
          (utf8 (key.flatMap escapeChar ++ ['"']) ++ (utf8 (value ++ behind) ++ rest))
          = .ok (key, utf8 (value ++ behind) ++ rest) := quotedText_takes key ending _
      have hunseen : ∀ k ∈ members.map (·.1), k ∉ key :: seen := by
        intro k hk
        rw [List.mem_cons, not_or]
        exact ⟨fun heq => hfresh (heq ▸ hk), hseen k (List.mem_cons_of_mem _ hk)⟩
      have hothers := ih (fun k j hk => hmember k j (List.mem_cons_of_mem _ hk)) hkeys
        (key :: seen) hunseen hmembers (Nat.lt_of_succ_lt_succ hbound)
      have hsplit : (comma isFirst y ++ (y' ++ (quoted key ++ (value ++ t)))) ++ (w ++ ['\x7d'])
          = comma isFirst y
            ++ (y' ++ '"' :: ((key.flatMap escapeChar ++ ['"']) ++ (value ++ behind))) := by
        simp [quoted, behind]
      have hmore := moreMembers_more isFirst hy hy' ending
        ((key.flatMap escapeChar ++ ['"']) ++ (value ++ behind)) rest
      rw [hsplit, readMembers, Reader.bind_eq hmore, if_pos rfl,
        Reader.bind_eq (Reader.advance_eq (by decide) ending _ rest), Text.utf8_append,
        List.append_assoc, Reader.bind_eq hname, Text.utf8_append, List.append_assoc,
        Reader.bind_eq hread, hothers]
      simp

theorem closeObject_takes : Takes closeObject ['\x7d'] () := by
  refine Reader.token_bind_takes (w := []) isSpace_nil (by decide) ?_
  rw [if_pos rfl]
  exact Reader.advance_takes (by decide)

end Gazetteer.Json
