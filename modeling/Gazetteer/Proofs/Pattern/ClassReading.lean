/-
# Gazetteer.Proofs.Pattern.ClassReading -- the classes of plain patterns are read as they are meant

A class is read item by item. What stands at the front of an item must not end or negate the class
or make an operation of it, and what stands behind an item must not make a range of it; no item
starts so (`Item.front`), so items can be put together freely. Digits and word characters have been
written out as classes by then, which are classes of plain items themselves.
-/
import Gazetteer.Proofs.Pattern.Plain

namespace Gazetteer.Pattern.Plain

/-! ## Escapes -/

/-- A character that stands for itself is not taken for another purpose, or it is punctuation behind
a backslash. -/
theorem sign_cases {taken : Text} {htaken : taken.contains '\\' = true}
    (l : Sign (allBut taken htaken)) :
    (l.text = [l.char] ∧ l.char ∉ taken)
      ∨ (l.text = ['\\', l.char] ∧ isPunctuation l.char = true ∧ l.char ≠ '<' ∧ l.char ≠ '>') := by
  rcases l.text_cases with ⟨htext, -, hbare⟩ | ⟨htext, -, hescaped⟩
  · exact .inl ⟨htext, by simpa [allBut] using hbare⟩
  · exact .inr ⟨htext, by simpa [allBut, and_assoc] using hescaped⟩

theorem isEscapable_of_isPunctuation {c : Char} (hc : isPunctuation c = true) (hlt : c ≠ '<')
    (hgt : c ≠ '>') : isEscapable c = true := by
  simp only [isPunctuation, Bool.and_eq_true, decide_eq_true_eq, Bool.not_eq_true'] at hc
  have hascii : c.toNat < 128 := by omega
  simp [isEscapable, hascii, hc.2, hlt, hgt]

theorem escape?_punctuation {c : Char} (hc : isPunctuation c = true) (hlt : c ≠ '<')
    (hgt : c ≠ '>') (rest : Text) : escape? (c :: rest) = some (.literal c, rest) := by
  have hescapable : isEscapable c = true := isEscapable_of_isPunctuation hc hlt hgt
  unfold escape?
  split
  · contradiction
  · rename_i heq
    obtain ⟨rfl, rfl⟩ := List.cons.inj heq
    -- The letters that mean something behind a backslash are no punctuation.
    split
    all_goals first
      | exact absurd hc (by decide)
      | contradiction
      | rw [if_pos hescapable]

/-! ## Items of a class -/

/-- What may not stand at the front of an item: it would end or negate the class, or make a range or
an operation of it. -/
def notInFront : Text := ['-', ']', '^', '&', '~']

theorem literal_front (l : Sign inClass) :
    ∃ c tail, l.text = c :: tail ∧ c ∉ notInFront ∧ c ≠ '[' := by
  rcases sign_cases l with ⟨htext, hchar⟩ | ⟨htext, -⟩
  · refine ⟨_, _, htext, fun hmem => hchar ?_, fun heq => hchar ?_⟩
    · exact (show notInFront ⊆ reservedInClass by decide) hmem
    · rw [heq]
      decide
  · exact ⟨_, _, htext, by decide, by decide⟩

theorem literal_classAtom? (l : Sign inClass) (rest : Text) :
    Pattern.classAtom? (l.text ++ rest) = some (.literal l.char, rest) := by
  rcases sign_cases l with ⟨htext, hchar⟩ | ⟨htext, hchar, hlt, hgt⟩
  · have hne : l.char ≠ '\\' := by
      intro heq
      exact hchar (by rw [heq]; decide)
    rw [htext, List.singleton_append, Pattern.classAtom?]
    exact hne
  · rw [htext]
    exact escape?_punctuation hchar hlt hgt rest

theorem classItem?_single {t rest : Text} {e : Escape} {s : CharSet}
    (hatom : classAtom? t = some (e, rest)) (hset : e.set? = some s)
    (hrest : rest.head? ≠ some '-') : classItem? t = some (s, rest) := by
  rw [classItem?, hatom, Option.bind_eq_bind, Option.bind_some]
  dsimp only
  split
  · simp at hrest
  · simp at hrest
  · simp at hrest
  · rw [hset]
    rfl

theorem Range.classItem? (r : Range) (rest : Text) :
    Pattern.classItem? (r.lo.text ++ '-' :: (r.hi.text ++ rest))
      = some (.range r.lo.char r.hi.char, rest) := by
  obtain ⟨c, tail, htext, hc, -⟩ := literal_front r.hi
  have hhi : Pattern.classAtom? (c :: (tail ++ rest)) = some (.literal r.hi.char, rest) := by
    rw [← List.cons_append, ← htext, literal_classAtom?]
  rw [Pattern.classItem?, literal_classAtom?, htext, Option.bind_eq_bind, Option.bind_some,
    List.cons_append]
  dsimp only
  split
  · rename_i heq
    rw [(List.cons.inj (List.cons.inj heq).2).1] at hc
    exact absurd (by decide) hc
  · rename_i heq
    rw [(List.cons.inj (List.cons.inj heq).2).1] at hc
    exact absurd (by decide) hc
  · rename_i heq
    rw [← (List.cons.inj heq).2, hhi]
    exact if_pos r.ordered
  · rename_i hne
    exact absurd rfl (hne _)

/-- An item that is neither a bracket nor an operation is added to the list. -/
theorem classItems?_item {c : Char} {t rest : Text} {item current : CharSet} (hc : c ∉ notInFront)
    (hbracket : c ≠ '[') (h : classItem? (c :: t) = some (item, rest)) (b : Nat) :
    classItems? (b + 1) none current (c :: t)
      = classItems? b none (.union current item) rest := by
  simp only [notInFront, List.mem_cons, List.not_mem_nil, or_false, not_or] at hc
  rw [classItems?, h]
  all_goals simp [hc, hbracket]

/-- An item is read in front of what is no hyphen, within a step for each of its characters. -/
def Item.IsRead (i : Item) : Prop :=
  ∀ ⦃b : Nat⦄ ⦃current : CharSet⦄ ⦃rest : Text⦄, (i.written classText).length ≤ b →
    rest.head? ≠ some '-' →
    classItems? (b + 1) none current (i.written classText ++ rest)
      = classItems? b none (.union current i.set) rest

theorem literal_isRead (l : Sign inClass) : (Item.literal l).IsRead := by
  intro b current rest _ hrest
  obtain ⟨c, tail, htext, hc, hbracket⟩ := literal_front l
  have hatom := literal_classAtom? l rest
  rw [htext, List.cons_append] at hatom
  rw [Item.written, htext, List.cons_append]
  exact classItems?_item hc hbracket (classItem?_single hatom rfl hrest) b

theorem Range.isRead (r : Range) : (Item.range r).IsRead := by
  intro b current rest _ _
  obtain ⟨c, tail, htext, hc, hbracket⟩ := literal_front r.lo
  have hitem := r.classItem? rest
  rw [htext, List.cons_append] at hitem
  rw [Item.written, Sign.through, htext, List.cons_append, List.cons_append, List.append_assoc,
    List.cons_append]
  exact classItems?_item hc hbracket hitem b

/-- No item starts like the end of a class, its negation, a range or an operation. -/
theorem Item.front (i : Item) : ∃ c tail, i.written classText = c :: tail ∧ c ∉ notInFront := by
  match i with
  | .literal l =>
    obtain ⟨c, tail, htext, hc, -⟩ := literal_front l
    exact ⟨c, tail, htext, hc⟩
  | .range r =>
    obtain ⟨c, tail, htext, hc, -⟩ := literal_front r.lo
    refine ⟨c, tail ++ '-' :: r.hi.text, ?_, hc⟩
    rw [Item.written, Sign.through, htext, List.cons_append]
  | .shorthand ⟨kind, negated⟩ =>
    cases kind <;> cases negated <;> exact ⟨_, _, rfl, by decide⟩

/-! ## Classes -/

/-- Items are read one behind the other, up to and with the closing bracket. -/
theorem classItems?_items {items : List Item} (hitems : ∀ i ∈ items, i.IsRead) {b : Nat}
    {current : CharSet} {rest : Text} (hb : (items.flatMap (Item.written classText)).length < b) :
    classItems? b none current (items.flatMap (Item.written classText) ++ ']' :: rest)
      = some (itemsSet current items, rest) := by
  induction items generalizing b current with
  | nil =>
    obtain ⟨b, rfl⟩ := Nat.exists_eq_add_one_of_ne_zero (Nat.ne_zero_of_lt hb)
    rfl
  | cons i items ih =>
    obtain ⟨b, rfl⟩ := Nat.exists_eq_add_one_of_ne_zero (Nat.ne_zero_of_lt hb)
    rw [List.flatMap_cons, List.length_append] at hb
    obtain ⟨c, tail, htext, -⟩ := i.front
    have hlength : 0 < (i.written classText).length := by
      rw [htext]
      exact Nat.succ_pos _
    have hrest : (items.flatMap (Item.written classText) ++ ']' :: rest).head? ≠ some '-' := by
      cases items with
      | nil => simp
      | cons j items =>
        obtain ⟨d, tail', htext', hd⟩ := j.front
        rw [List.flatMap_cons, htext']
        rintro heq
        rw [Option.some_inj.mp heq] at hd
        exact absurd (by decide) hd
    rw [List.flatMap_cons, List.append_assoc, hitems i List.mem_cons_self (by omega) hrest,
      ih (fun j hj => hitems j (List.mem_cons_of_mem i hj)) (by omega)]
    rfl

/-- A class is read behind its opening bracket, within a step for each of its characters. -/
theorem Class.bracket? (s : Class) (hitems : ∀ i ∈ s.items, i.IsRead) {b : Nat}
    (hb : (s.written classText).length ≤ b) (rest : Text) :
    ∃ t, s.written classText ++ rest = '[' :: t ∧ Pattern.bracket? b t = some (s.set, rest) := by
  have hlength : (s.items.flatMap (Item.written classText)).length + 2
      ≤ (s.written classText).length := by
    simp [Class.written, bracketed]
  obtain ⟨b, rfl⟩ := Nat.exists_eq_add_one_of_ne_zero (n := b) (by omega)
  have hfront : classFront (s.caret ++ (s.items.flatMap (Item.written classText) ++ ']' :: rest))
      = (s.negated, .nothing, s.items.flatMap (Item.written classText) ++ ']' :: rest) := by
    obtain ⟨c, tail, htext, hc⟩ := s.first.front
    simp only [notInFront, List.mem_cons, List.not_mem_nil, or_false, not_or] at hc
    rw [Class.caret, Class.items, List.flatMap_cons, htext]
    cases s.negated
    · simp [classFront, hc, leadingHyphens]
    · simp [classFront, hc, leadingHyphens]
  refine ⟨_, bracketed_append s.caret s.items (Item.written classText) rest, ?_⟩
  rw [Pattern.bracket?, hfront]
  dsimp only
  rw [classItems?_items hitems (by omega)]
  rfl

/-! ## Digits and word characters in a class -/

/-- What the letter of a shorthand is written out as is the text of a class. -/
structure Shorthand.SpelledAs (s : Shorthand) (spelled : Class) : Prop where
  text : classText s.letter = spelled.written classText
  set : s.set = spelled.set
  items : ∀ i ∈ spelled.items, i.IsRead
  /-- The bracket does not open the name of a class. -/
  unnamed : ∀ rest, namedClass? (classText s.letter ++ rest) = none

/-- The digits as a class. -/
def digits (negated : Bool) : Class :=
  ⟨negated, .range { lo := { char := '0' }, hi := { char := '9' } }, []⟩

/-- The word characters as a class. -/
def wordChars (negated : Bool) : Class :=
  ⟨negated, .range { lo := { char := '0' }, hi := { char := '9' } },
    [.range { lo := { char := 'A' }, hi := { char := 'Z' } },
      .range { lo := { char := 'a' }, hi := { char := 'z' } }, .literal { char := '_' }]⟩

theorem spelledAs_digits (negated : Bool) :
    Shorthand.SpelledAs ⟨.digit, negated⟩ (digits negated) where
  text := by cases negated <;> rfl
  set := rfl
  items := by
    intro i hi
    obtain rfl := List.mem_singleton.mp hi
    exact Range.isRead _
  unnamed rest := by cases negated <;> rfl

theorem spelledAs_wordChars (negated : Bool) :
    Shorthand.SpelledAs ⟨.word, negated⟩ (wordChars negated) where
  text := by cases negated <;> rfl
  set := rfl
  items := by
    intro i hi
    simp only [Class.items, wordChars, List.mem_cons, List.not_mem_nil, or_false] at hi
    rcases hi with rfl | rfl | rfl | rfl
    · exact Range.isRead _
    · exact Range.isRead _
    · exact Range.isRead _
    · exact literal_isRead _
  unnamed rest := by cases negated <;> rfl

theorem Shorthand.SpelledAs.isRead {s : Shorthand} {spelled : Class} (h : s.SpelledAs spelled) :
    (Item.shorthand s).IsRead := by
  intro b current rest hb _
  have hunnamed := h.unnamed rest
  rw [Item.written, h.text] at hb ⊢
  rw [h.text] at hunnamed
  obtain ⟨t, htext, hbracket⟩ := spelled.bracket? h.items hb rest
  rw [htext] at hunnamed ⊢
  rw [classItems?, hunnamed]
  dsimp only
  rw [hbracket, Item.set, h.set]

theorem blank_isRead (negated : Bool) : (Item.shorthand ⟨.blank, negated⟩).IsRead := by
  intro b current rest _ hrest
  have hatom : Pattern.classAtom? (classText (Shorthand.letter ⟨.blank, negated⟩) ++ rest)
      = some (.blank negated, rest) := by
    cases negated <;> rfl
  have hitem := classItem?_single hatom rfl hrest
  cases negated with
  | false => exact classItems?_item (by decide) (by decide) hitem b
  | true => exact classItems?_item (by decide) (by decide) hitem b

/-- Every item is read. -/
theorem Item.isRead (i : Item) : i.IsRead := by
  match i with
  | .literal l => exact literal_isRead l
  | .range r => exact r.isRead
  | .shorthand ⟨.digit, negated⟩ => exact (spelledAs_digits negated).isRead
  | .shorthand ⟨.word, negated⟩ => exact (spelledAs_wordChars negated).isRead
  | .shorthand ⟨.blank, negated⟩ => exact blank_isRead negated

end Gazetteer.Pattern.Plain
