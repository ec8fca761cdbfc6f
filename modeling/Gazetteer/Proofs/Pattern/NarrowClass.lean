/-
# Gazetteer.Proofs.Pattern.NarrowClass -- narrow classes hold narrow characters

A character is narrow if it is of ASCII or white space. Whatever the class of a narrow pattern is
read as, it holds narrow characters only.

Nothing is said of whether a class can be read. Each item is followed on the condition that reading
goes on behind it: then the reader took just this item, and added something narrow to the list. This
holds whatever bound the reader has, so no steps are counted.
-/
import Gazetteer.Proofs.Pattern.Meaning
import Gazetteer.Proofs.Pattern.Narrow

namespace Gazetteer.Pattern

/-! ## Narrow sets -/

/-- A character of ASCII, or white space. -/
def IsNarrow (c : Char) : Prop := c.toNat < 128 ∨ Text.isBlankChar c = true

/-- Where letter case matters, the set holds narrow characters only. -/
def CharSet.Narrow (s : CharSet) : Prop := ∀ c, s.holds false c = true → IsNarrow c

namespace CharSet

variable {s t : CharSet}

theorem narrow_nothing : Narrow .nothing := fun _ h => absurd h (by simp [holds])

theorem narrow_range {lo hi : Char} (hhi : hi.toNat < 128) : Narrow (.range lo hi) := by
  intro c h
  have hle := (Plain.holds_range.mp h).2
  exact Or.inl (by omega)

theorem narrow_blank : Narrow (.blank false) := fun c h => Or.inr (by simpa [holds] using h)

theorem Narrow.union (hs : s.Narrow) (ht : t.Narrow) : Narrow (.union s t) := by
  intro c h
  rw [Plain.holds_union, Bool.or_eq_true] at h
  exact h.elim (hs c) (ht c)

theorem Narrow.bracket (hs : s.Narrow) : Narrow (.bracket false s) := by
  intro c h
  rw [Plain.holds_bracket, Bool.bne_false] at h
  exact hs c h

end CharSet

namespace Narrow

/-! ## Escapes -/

/-- What stands behind a backslash is a character of ASCII, white space or a condition. -/
def IsNarrowEscape : Escape → Prop
  | .literal c => c.toNat < 128
  | .anchor _ => True
  | .blank negated => negated = false

theorem IsNarrowEscape.set {e : Escape} (h : IsNarrowEscape e) {s : CharSet}
    (hs : e.set? = some s) : s.Narrow := by
  cases e with
  | literal c =>
    obtain rfl := Option.some.inj hs
    exact CharSet.narrow_range h
  | anchor a => exact absurd hs (by simp [Escape.set?])
  | blank negated =>
    obtain rfl : negated = false := h
    obtain rfl := Option.some.inj hs
    exact CharSet.narrow_blank

theorem toNat_of_isPunctuation {c : Char} (h : isPunctuation c = true) : c.toNat < 128 := by
  simp only [isPunctuation, Bool.and_eq_true, decide_eq_true_eq] at h
  omega

/-- Behind a backslash, punctuation is itself, but for the angle brackets. -/
theorem exists_escape? {c : Char} (h : isPunctuation c = true) (rest : Text) :
    ∃ e, escape? (c :: rest) = some (e, rest) ∧ IsNarrowEscape e := by
  by_cases hlt : c = '<'
  · rw [hlt]
    exact ⟨_, rfl, trivial⟩
  by_cases hgt : c = '>'
  · rw [hgt]
    exact ⟨_, rfl, trivial⟩
  exact ⟨_, Plain.escape?_punctuation h hlt hgt rest, toNat_of_isPunctuation h⟩

/-- A sign is a character of ASCII that is not taken for another purpose, or punctuation behind a
backslash. -/
theorem sign_cases {taken : Text} {htaken : taken.contains '\\' = true}
    (s : Sign (asciiBut taken htaken)) :
    (s.text = [s.char] ∧ s.front = s.char ∧ s.char.toNat < 128 ∧ s.char ∉ taken)
      ∨ (s.text = ['\\', s.char] ∧ s.front = '\\' ∧ isPunctuation s.char = true) := by
  rcases s.text_cases with ⟨htext, hfront, hbare⟩ | h
  · exact .inl ⟨htext, hfront, by simpa [asciiBut] using hbare⟩
  · exact .inr h

theorem exists_classAtom? (s : Sign inClass) (rest : Text) :
    ∃ e, classAtom? (s.text ++ rest) = some (e, rest) ∧ IsNarrowEscape e := by
  rcases sign_cases s with ⟨htext, -, hascii, hchar⟩ | ⟨htext, -, hchar⟩
  · have hne : s.char ≠ '\\' := by
      intro heq
      exact hchar (by rw [heq]; decide)
    refine ⟨.literal s.char, ?_, hascii⟩
    rw [htext, List.singleton_append, classAtom?]
    exact hne
  · rw [htext]
    exact exists_escape? hchar rest

/-! ## Items of a class -/

/-- A hyphen at the front of a text is the last item of a class. -/
def HyphenFree (t : Text) : Prop := ∀ u, t = '-' :: u → u.head? = some ']'

theorem hyphenFree_of_head? {t : Text} (h : t.head? ≠ some '-') : HyphenFree t := by
  rintro u rfl
  exact absurd rfl h

/-- What is no range is a single item. -/
theorem of_classItem? {t rest rest' : Text} {e : Escape} {s : CharSet}
    (hatom : classAtom? t = some (e, rest)) (h : classItem? t = some (s, rest'))
    (hrange : HyphenFree rest ∨ ∀ c, e ≠ .literal c) : rest' = rest ∧ e.set? = some s := by
  have hsingle : e.set?.map (fun s => (s, rest)) = some (s, rest') →
      rest' = rest ∧ e.set? = some s := by
    intro hmap
    obtain ⟨s', hset, heq⟩ := Option.map_eq_some_iff.mp hmap
    obtain ⟨rfl, rfl⟩ := Prod.mk.inj heq
    exact ⟨rfl, hset⟩
  rw [classItem?, hatom, Option.bind_eq_bind, Option.bind_some] at h
  dsimp only at h
  split at h
  · exact hsingle h
  · exact hsingle h
  -- A hyphen is left that is neither the last item nor half of an operation.
  · rename_i u hbracket _
    rcases hrange with hfree | hother
    · have hhead := hfree u rfl
      cases u with
      | nil => simp at hhead
      | cons c u =>
        obtain rfl : c = ']' := by simpa using hhead
        exact absurd rfl (hbracket u)
    · obtain ⟨⟨e', rest''⟩, -, hpair⟩ := Option.bind_eq_some_iff.mp h
      dsimp only at hpair
      split at hpair
      · exact absurd rfl (hother _)
      · exact absurd hpair (by simp)
  · exact hsingle h

/-- An item that is neither a bracket nor an operation is added to the list. -/
theorem of_classItems?_item {b : Nat} {current s : CharSet} {c : Char} {t r : Text}
    (hclose : c ≠ ']') (hopen : c ≠ '[') (hoperator : c ∈ ['&', '-', '~'] → t.head? ≠ some c)
    (h : classItems? (b + 1) none current (c :: t) = some (s, r)) :
    ∃ item rest, classItem? (c :: t) = some (item, rest)
      ∧ classItems? b none (.union current item) rest = some (s, r) := by
  have hpair : ∀ d ∈ ['&', '-', '~'], ∀ u, c :: t = d :: d :: u → False := by
    rintro d hd u heq
    obtain ⟨rfl, rfl⟩ := List.cons.inj heq
    exact hoperator hd rfl
  unfold classItems? at h
  split at h
  · exact absurd h (by simp)
  · rename_i heq
    exact absurd (List.cons.inj heq).1 hclose
  · rename_i heq
    exact absurd heq (hpair '&' (by decide) _)
  · rename_i heq
    exact absurd heq (hpair '-' (by decide) _)
  · rename_i heq
    exact absurd heq (hpair '~' (by decide) _)
  · rename_i heq
    exact absurd (List.cons.inj heq).1 hopen
  · cases hitem : classItem? (c :: t) with
    | none =>
      rw [hitem] at h
      exact absurd h (by simp)
    | some found =>
      rw [hitem] at h
      exact ⟨found.1, found.2, rfl, h⟩

/-- The text behind an item does not go on with it. -/
def Item.EndsBefore : Item → Text → Prop
  | .sign s, t => HyphenFree t ∧ (s.front ∈ ['&', '~'] → t.head? ≠ some s.front)
  | .hyphen, t => t.head? ≠ some '-'
  | .range _ _, _ | .kind _, _ => True

/-- If reading goes on behind an item, then the item is taken and something narrow is added. -/
def Item.IsTaken (i : Item) : Prop :=
  ∀ ⦃b : Nat⦄ ⦃current s : CharSet⦄ ⦃rest r : Text⦄, i.EndsBefore rest →
    classItems? (b + 1) none current (i.written classText ++ rest) = some (s, r) →
    ∃ item : CharSet, item.Narrow
      ∧ classItems? b none (.union current item) rest = some (s, r)

/-- The front of a sign neither opens a class nor ends one nor makes a range, and only a sign of one
character can be half of an operation. -/
theorem sign_front (s : Sign inClass) :
    ∃ t, s.text = s.front :: t ∧ s.front ≠ '[' ∧ s.front ≠ ']' ∧ s.front ≠ '-'
      ∧ (s.front ∈ ['&', '~'] → t = []) := by
  rcases sign_cases s with ⟨htext, hfront, -, hchar⟩ | ⟨htext, hfront, -⟩
  · simp only [specialInClass, List.mem_cons, List.not_mem_nil, or_false, not_or] at hchar
    rw [htext, hfront]
    exact ⟨[], rfl, hchar.2.1, hchar.2.2.1, hchar.2.2.2, fun _ => rfl⟩
  · rw [htext, hfront]
    exact ⟨[s.char], rfl, by decide, by decide, by decide, fun h => absurd h (by decide)⟩

/-- An item that starts with a sign is added to the list. -/
theorem of_classItems?_sign (sign : Sign inClass) {b : Nat} {current s : CharSet}
    {rest r : Text} (hoperator : sign.front ∈ ['&', '~'] → rest.head? ≠ some sign.front)
    (h : classItems? (b + 1) none current (sign.text ++ rest) = some (s, r)) :
    ∃ item rest', classItem? (sign.text ++ rest) = some (item, rest')
      ∧ classItems? b none (.union current item) rest' = some (s, r) := by
  obtain ⟨t, htext, hopen, hclose, hhyphen, hsingle⟩ := sign_front sign
  have hnext : sign.front ∈ ['&', '-', '~'] → (t ++ rest).head? ≠ some sign.front := by
    intro hmem
    have hpair : sign.front ∈ ['&', '~'] := by
      simpa [hhyphen] using hmem
    rw [hsingle hpair]
    exact hoperator hpair
  rw [htext, List.cons_append] at h ⊢
  exact of_classItems?_item hclose hopen hnext h

theorem sign_isTaken (sign : Sign inClass) : (Item.sign sign).IsTaken := by
  rintro b current s rest r ⟨hfree, hoperator⟩ h
  obtain ⟨e, hatom, he⟩ := exists_classAtom? sign rest
  obtain ⟨item, rest', hitem, hafter⟩ := of_classItems?_sign sign hoperator h
  obtain ⟨rfl, hset⟩ := of_classItem? hatom hitem (Or.inl hfree)
  exact ⟨item, he.set hset, hafter⟩

theorem hyphen_isTaken : Item.hyphen.IsTaken := by
  intro b current s rest r hrest h
  obtain ⟨item, rest', hitem, hafter⟩ :=
    of_classItems?_item (c := '-') (by decide) (by decide) (fun _ => hrest) h
  obtain ⟨rfl, hset⟩ := of_classItem? (e := .literal '-') rfl hitem
    (Or.inl (hyphenFree_of_head? hrest))
  have hascii : IsNarrowEscape (.literal '-') := show '-'.toNat < 128 by decide
  exact ⟨item, hascii.set hset, hafter⟩

/-- What is read of a range is a range. -/
theorem of_classItem?_range {lo hi : Sign inClass} {s : CharSet} {rest r : Text}
    (h : classItem? (lo.text ++ '-' :: (hi.text ++ rest)) = some (s, r)) :
    r = rest ∧ s.Narrow := by
  obtain ⟨e, hatom, -⟩ := exists_classAtom? lo ('-' :: (hi.text ++ rest))
  obtain ⟨e', hatom', he'⟩ := exists_classAtom? hi rest
  obtain ⟨t, htext, -, hclose, hhyphen, -⟩ := sign_front hi
  rw [classItem?, hatom, Option.bind_eq_bind, Option.bind_some] at h
  rw [htext, List.cons_append] at h hatom'
  dsimp only at h
  -- Behind the hyphen stands a sign, so it is a range or nothing.
  split at h
  · rename_i heq
    exact absurd (List.cons.inj (List.cons.inj heq).2).1 hclose
  · rename_i heq
    exact absurd (List.cons.inj (List.cons.inj heq).2).1 hhyphen
  · rename_i heq
    rw [← (List.cons.inj heq).2, hatom', Option.bind_some] at h
    dsimp only at h
    split at h
    · split at h
      · obtain ⟨rfl, rfl⟩ := Prod.mk.inj (Option.some.inj h)
        exact ⟨rfl, CharSet.narrow_range he'⟩
      · exact absurd h (by simp)
    · exact absurd h (by simp)
  · rename_i hne
    exact absurd rfl (hne _)

theorem range_isTaken (lo hi : Sign inClass) : (Item.range lo hi).IsTaken := by
  intro b current s rest r _ h
  rw [Item.written, Sign.through, List.append_assoc, List.cons_append] at h
  have hoperator : lo.front ∈ ['&', '~'] →
      ('-' :: (hi.text ++ rest)).head? ≠ some lo.front := by
    intro hmem heq
    rw [← Option.some.inj heq] at hmem
    exact absurd hmem (by decide)
  obtain ⟨item, rest', hitem, hafter⟩ := of_classItems?_sign lo hoperator h
  obtain ⟨rfl, hnarrow⟩ := of_classItem?_range hitem
  exact ⟨item, hnarrow, hafter⟩

theorem blank_isTaken : (Item.kind .blank).IsTaken := by
  intro b current s rest r _ h
  obtain ⟨item, rest', hitem, hafter⟩ :=
    of_classItems?_item (c := '\\') (by decide) (by decide) (fun hmem => absurd hmem (by decide)) h
  obtain ⟨rfl, hset⟩ := of_classItem? (e := .blank false) rfl hitem (Or.inr (by simp))
  exact ⟨item, IsNarrowEscape.set (e := .blank false) rfl hset, hafter⟩

/-! ## Classes -/

/-- What an item starts with when its classes are written out. -/
theorem Item.exists_front (i : Item) :
    ∃ c t, i.written classText = c :: t ∧ c ≠ ']'
      ∧ ∀ d ∈ ['-', '^', '&', '~'], c = d → i.front = d := by
  match i with
  | .sign s =>
    obtain ⟨t, htext, -, hclose, -⟩ := sign_front s
    exact ⟨s.front, t, htext, hclose, fun _ _ h => h⟩
  | .hyphen => exact ⟨'-', [], rfl, by decide, fun _ _ h => h⟩
  | .range lo hi =>
    obtain ⟨t, htext, -, hclose, -⟩ := sign_front lo
    refine ⟨lo.front, t ++ '-' :: hi.text, ?_, hclose, fun _ _ h => h⟩
    rw [Item.written, Sign.through, htext, List.cons_append]
  | .kind k => cases k <;> exact ⟨_, _, rfl, by decide, by decide⟩

/-- Nothing but an item that may stand right behind an item goes on with it. -/
theorem Item.endsBefore_of_mayPrecede {i j : Item} (h : i.mayPrecede j = true) (t : Text) :
    i.EndsBefore (j.written classText ++ t) := by
  obtain ⟨c, u, htext, -, hc⟩ := j.exists_front
  have hhead : (j.written classText ++ t).head? = some c := by
    rw [htext]
    rfl
  match i with
  | .sign s =>
    simp only [mayPrecede, Bool.and_eq_true, bne_iff_ne, Bool.not_eq_true', Bool.and_eq_false_iff,
      beq_eq_false_iff_ne, List.contains_eq_mem, decide_eq_false_iff_not] at h
    refine ⟨hyphenFree_of_head? ?_, fun hmem => ?_⟩
    · rw [hhead]
      rintro heq
      exact h.1 (hc '-' (by decide) (Option.some.inj heq))
    · rw [hhead]
      rintro heq
      have hpair : s.front ∈ ['-', '^', '&', '~'] := by
        simp only [List.mem_cons, List.not_mem_nil, or_false] at hmem ⊢
        exact Or.inr (Or.inr hmem)
      exact h.2.elim (absurd hmem) (absurd (hc s.front hpair (Option.some.inj heq)))
  | .hyphen =>
    rw [mayPrecede, bne_iff_ne] at h
    show (j.written classText ++ t).head? ≠ some '-'
    rw [hhead]
    rintro heq
    exact h (hc '-' (by decide) (Option.some.inj heq))
  | .range _ _ => trivial
  | .kind _ => trivial

/-- The closing bracket ends every item, also behind one last hyphen. -/
theorem Item.endsBefore_bracket (i : Item) (rest : Text) : i.EndsBefore (']' :: rest) := by
  match i with
  | .sign s =>
    refine ⟨hyphenFree_of_head? (by simp), fun hmem heq => ?_⟩
    rw [← Option.some.inj heq] at hmem
    exact absurd hmem (by decide)
  | .hyphen => exact fun heq => absurd (Option.some.inj heq) (by decide)
  | .range _ _ => trivial
  | .kind _ => trivial

theorem Item.endsBefore_hyphen {i : Item} (h : (i.front != '-') = true) (rest : Text) :
    i.EndsBefore ('-' :: ']' :: rest) := by
  match i with
  | .sign s =>
    refine ⟨?_, fun hmem heq => ?_⟩
    · rintro u heq
      rw [← (List.cons.inj heq).2]
      rfl
    · rw [← Option.some.inj heq] at hmem
      exact absurd hmem (by decide)
  | .hyphen => exact absurd h (by decide)
  | .range _ _ => trivial
  | .kind _ => trivial

/-- If items that stand apart are followed by others, the first of them ends before those. -/
theorem areApart_cons {i : Item} {items : List Item} (h : areApart (i :: items) = true)
    (rest : Text) :
    i.EndsBefore (items.flatMap (Item.written classText) ++ ']' :: rest)
      ∧ areApart items = true := by
  unfold areApart at h
  split at h
  · rename_i j heq
    obtain ⟨rfl, rfl⟩ := List.cons.inj heq
    exact ⟨Item.endsBefore_hyphen h rest, rfl⟩
  · rename_i j k others _ heq
    obtain ⟨rfl, rfl⟩ := List.cons.inj heq
    rw [Bool.and_eq_true] at h
    rw [List.flatMap_cons, List.append_assoc]
    exact ⟨Item.endsBefore_of_mayPrecede h.1 _, h.2⟩
  · rename_i hlast hmore
    cases items with
    | nil => exact ⟨i.endsBefore_bracket rest, rfl⟩
    | cons j others => exact absurd rfl (hmore i j others)

/-- If reading ends behind some items, then it ends at the bracket that closes them. -/
theorem of_classItems? {items : List Item} (htaken : ∀ i ∈ items, i.IsTaken)
    (hapart : areApart items = true) {b : Nat} {current s : CharSet} {rest r : Text}
    (hcurrent : current.Narrow)
    (h : classItems? b none current (items.flatMap (Item.written classText) ++ ']' :: rest)
      = some (s, r)) :
    r = rest ∧ s.Narrow := by
  cases b with
  | zero => exact absurd h (by simp [classItems?])
  | succ b =>
    induction items generalizing b current with
    | nil =>
      obtain ⟨rfl, rfl⟩ := Prod.mk.inj (Option.some.inj h)
      exact ⟨rfl, hcurrent⟩
    | cons i items ih =>
      obtain ⟨hends, hothers⟩ := areApart_cons hapart rest
      rw [List.flatMap_cons, List.append_assoc] at h
      obtain ⟨item, hitem, hafter⟩ := htaken i List.mem_cons_self hends h
      cases b with
      | zero => exact absurd hafter (by simp [classItems?])
      | succ b =>
        exact ih (fun j hj => htaken j (List.mem_cons_of_mem i hj)) hothers
          (hcurrent.union hitem) _ hafter

/-- The hyphens at the front of a class are taken. -/
theorem exists_leadingHyphens (n : Nat) {t : Text} (ht : t.head? ≠ some '-') :
    ∃ s : CharSet, leadingHyphens (List.replicate n '-' ++ t) = (s, t) ∧ s.Narrow := by
  induction n with
  | zero =>
    refine ⟨.nothing, ?_, CharSet.narrow_nothing⟩
    rw [List.replicate_zero, List.nil_append, leadingHyphens]
    rintro u rfl
    exact ht rfl
  | succ n ih =>
    obtain ⟨s, hs, hnarrow⟩ := ih
    refine ⟨.union (.single '-') s, ?_, .union (CharSet.narrow_range (by decide)) hnarrow⟩
    rw [List.replicate_succ, List.cons_append, leadingHyphens, hs]

/-- The front of a class is taken. -/
theorem Class.exists_front (s : Class) (rest : Text) :
    ∃ front : CharSet, front.Narrow
      ∧ classFront (s.front.text ++ (s.items.flatMap (Item.written classText) ++ ']' :: rest))
        = (false, front, s.items.flatMap (Item.written classText) ++ ']' :: rest) := by
  have hvalid := s.valid
  rw [Bool.and_eq_true] at hvalid
  generalize s.items = items at hvalid ⊢
  cases hfront : s.front with
  | bracket => exact ⟨_, CharSet.narrow_range (by decide), rfl⟩
  | hyphens n =>
    rw [hfront] at hvalid
    -- Neither a hyphen nor, without hyphens, a caret or closing bracket comes next.
    have hhead : (items.flatMap (Item.written classText) ++ ']' :: rest).head? ≠ some '-'
        ∧ (n = 0 → (items.flatMap (Item.written classText) ++ ']' :: rest).head? ≠ some '^'
          ∧ (items.flatMap (Item.written classText) ++ ']' :: rest).head? ≠ some ']') := by
      cases items with
      | nil =>
        cases n with
        | zero => exact absurd hvalid.1 (by simp [Front.admits])
        | succ n => exact ⟨by simp, by simp⟩
      | cons i items =>
        obtain ⟨c, t, htext, hclose, hc⟩ := i.exists_front
        have hfirst : i.front ≠ '-' ∧ (n = 0 → i.front ≠ '^') := by
          cases n with
          | zero => simpa [Front.admits] using hvalid.1
          | succ n => exact ⟨by simpa [Front.admits] using hvalid.1, by simp⟩
        rw [List.flatMap_cons, htext]
        refine ⟨fun heq => ?_, fun hn => ⟨fun heq => ?_, fun heq => ?_⟩⟩
        · exact hfirst.1 (hc '-' (by decide) (Option.some.inj heq))
        · exact hfirst.2 hn (hc '^' (by decide) (Option.some.inj heq))
        · exact hclose (Option.some.inj heq)
    generalize items.flatMap (Item.written classText) ++ ']' :: rest = t at hhead
    obtain ⟨front, hhyphens, hnarrow⟩ := exists_leadingHyphens n hhead.1
    refine ⟨front, hnarrow, ?_⟩
    rw [Front.text, ← hhyphens]
    cases n with
    | zero =>
      rw [List.replicate_zero, List.nil_append]
      obtain ⟨hcaret, hclose⟩ := hhead.2 rfl
      cases t with
      | nil => rfl
      | cons c t =>
        have hcaret' : c ≠ '^' := fun h => hcaret (by rw [h]; rfl)
        have hclose' : c ≠ ']' := fun h => hclose (by rw [h]; rfl)
        simp [classFront, hcaret', hclose']
    | succ n => rfl

/-- If a class is read, it is taken as a whole and means narrow characters. -/
theorem Class.of_bracket? {s : Class} (htaken : ∀ i ∈ s.items, i.IsTaken) {b : Nat}
    {set : CharSet} {rest r : Text}
    (h : bracket? b (s.front.text ++ (s.items.flatMap (Item.written classText) ++ ']' :: rest))
      = some (set, r)) :
    r = rest ∧ set.Narrow := by
  cases b with
  | zero => exact absurd h (by simp [bracket?])
  | succ b =>
    have hvalid := s.valid
    rw [Bool.and_eq_true] at hvalid
    obtain ⟨front, hfront, heq⟩ := s.exists_front rest
    rw [bracket?, heq] at h
    obtain ⟨⟨listed, rest'⟩, hlisted, hpair⟩ := Option.map_eq_some_iff.mp h
    obtain ⟨rfl, rfl⟩ := Prod.mk.inj hpair
    obtain ⟨rfl, hnarrow⟩ := of_classItems? htaken hvalid.2 hfront hlisted
    exact ⟨rfl, hnarrow.bracket⟩

/-! ## Digits, word characters and white space -/

/-- The digits as a class. -/
def digits : Class := { items := [.range { char := '0' } { char := '9' }] }

/-- The word characters as a class. -/
def wordChars : Class :=
  { items := [.range { char := '0' } { char := '9' }, .range { char := 'A' } { char := 'Z' },
      .range { char := 'a' } { char := 'z' }, .sign { char := '_' }] }

theorem digits_isTaken : ∀ i ∈ digits.items, i.IsTaken := by
  intro i hi
  obtain rfl := List.mem_singleton.mp hi
  exact range_isTaken _ _

theorem wordChars_isTaken : ∀ i ∈ wordChars.items, i.IsTaken := by
  intro i hi
  simp only [wordChars, List.mem_cons, List.not_mem_nil, or_false] at hi
  rcases hi with rfl | rfl | rfl | rfl
  · exact range_isTaken _ _
  · exact range_isTaken _ _
  · exact range_isTaken _ _
  · exact sign_isTaken _

/-- A class whose items are taken is taken as an item, unless it opens the name of a class. -/
theorem Class.isTaken {s : Class} (htaken : ∀ i ∈ s.items, i.IsTaken) {k : Kind}
    (htext : classText (k.letter false) = s.written classText)
    (hunnamed : ∀ rest, namedClass? (classText (k.letter false) ++ rest) = none) :
    (Item.kind k).IsTaken := by
  intro b current set rest r _ h
  have hunnamed := hunnamed rest
  rw [htext, Class.written, bracketed_append] at hunnamed
  rw [Item.written, htext, Class.written, bracketed_append, classItems?, hunnamed] at h
  dsimp only at h
  split at h
  · rename_i item rest' hbracket
    obtain ⟨rfl, hnarrow⟩ := Class.of_bracket? htaken hbracket
    exact ⟨item, hnarrow, h⟩
  · exact absurd h (by simp)

/-- Every item is taken. -/
theorem Item.isTaken (i : Item) : i.IsTaken := by
  match i with
  | .sign s => exact sign_isTaken s
  | .hyphen => exact hyphen_isTaken
  | .range lo hi => exact range_isTaken lo hi
  | .kind .digit => exact digits.isTaken digits_isTaken rfl fun _ => rfl
  | .kind .word => exact wordChars.isTaken wordChars_isTaken rfl fun _ => rfl
  | .kind .blank => exact blank_isTaken

end Narrow

end Gazetteer.Pattern
