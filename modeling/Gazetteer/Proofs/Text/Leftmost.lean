/-
# Gazetteer.Proofs.Text.Leftmost -- a scan is the leftmost global replacement

A scan takes an occurrence wherever one starts and goes on behind it. Seen from outside, it takes
the text apart: a stretch without a start, an occurrence, another stretch, and so on to the end. A
text can be taken apart in only one way such that no occurrence starts in any of the stretches, so
this says all about a scan: what it finds, what it replaces, and what it copies.

What starts where is a matter of the whole rest of the text: an occurrence may start in one stretch
and reach into what stands behind it. The same is said of cutting and splitting at a mark, where the
nearest mark is the one that no other starts in front of.
-/
import Gazetteer.Proofs.Text.Scan

namespace Gazetteer.Text

/-! ## Stretches without a start -/

/-- Nothing starts in the text, with what stands behind it. -/
def Clear (Starts : Text → Prop) (u behind : Text) : Prop :=
  ∀ a v, u = a ++ v → v ≠ [] → ¬ Starts (v ++ behind)

variable {Starts : Text → Prop}

theorem Clear.nil (behind : Text) : Clear Starts [] behind := by
  intro a v h hv
  exact absurd (List.append_eq_nil_iff.mp h.symm).2 hv

theorem Clear.cons {c : Char} {u behind : Text} (hc : ¬ Starts (c :: (u ++ behind)))
    (hu : Clear Starts u behind) : Clear Starts (c :: u) behind := by
  intro a v h hv
  cases a with
  | nil =>
    rw [List.nil_append] at h
    rw [← h]
    exact hc
  | cons d a => exact hu a v (List.cons.inj h).2 hv

theorem Clear.head {c : Char} {u behind : Text} (h : Clear Starts (c :: u) behind) :
    ¬ Starts (c :: (u ++ behind)) :=
  h [] (c :: u) rfl (List.cons_ne_nil c u)

theorem Clear.tail {c : Char} {u behind : Text} (h : Clear Starts (c :: u) behind) :
    Clear Starts u behind := by
  rintro a v rfl hv
  exact h (c :: a) v rfl hv

/-- A start in the same text is not before the end of the stretch. -/
theorem Clear.length_le {u behind v x : Text} (h : Clear Starts u behind)
    (heq : u ++ behind = v ++ x) (hx : Starts x) : u.length ≤ v.length := by
  rcases List.append_eq_append_iff.mp heq with ⟨d, rfl, -⟩ | ⟨d, rfl, hd⟩
  · rw [List.length_append]
    omega
  -- The start would be where `v` ends, which is inside `u` unless nothing of `u` is left.
  · by_cases hnil : d = []
    · simp [hnil]
    · rw [hd] at hx
      exact absurd hx (h v d rfl hnil)

/-! ## Texts taken apart -/

/-- A text taken apart: a stretch of text, then something that stands in it, and so on. -/
inductive Split (β : Type) where
  | last (t : Text)
  | next (before : Text) (b : β) (rest : Split β)

namespace Split

variable {α β : Type}

/-- The text with something written where each of the things stands. -/
def replaced (f : β → Text) : Split β → Text
  | .last t => t
  | .next before b rest => before ++ (f b ++ rest.replaced f)

/-- The things that stand in the text, from left to right. -/
def found : Split β → List β
  | .last _ => []
  | .next _ b rest => b :: rest.found

/-- The stretches of text, from left to right. -/
def texts : Split β → List Text
  | .last t => [t]
  | .next before _ rest => before :: rest.texts

/-- Nothing starts in any of the stretches. -/
def IsClear (written : β → Text) (Starts : Text → Prop) : Split β → Prop
  | .last t => Clear Starts t []
  | .next before b rest =>
    Clear Starts before (written b ++ rest.replaced written) ∧ rest.IsClear written Starts

/-- A text is taken apart at what starts in it, from left to right. -/
structure Leftmost (s : Split β) (written : β → Text) (Valid : β → Prop) (Starts : Text → Prop)
    (t : Text) : Prop where
  whole : s.replaced written = t
  valid : ∀ b ∈ s.found, Valid b
  clear : s.IsClear written Starts

/-- The same with a character in front. -/
def cons (c : Char) : Split β → Split β
  | .last t => .last (c :: t)
  | .next before b rest => .next (c :: before) b rest

/-- The pieces of the text. -/
def pieces (what : β → α) : Split β → List (Piece α)
  | .last t => t.map .plain
  | .next before b rest => before.map .plain ++ .found (what b) :: rest.pieces what

variable {written : β → Text} {Valid : β → Prop} {t : Text}

theorem Leftmost.last (h : Clear Starts t []) : (Split.last t).Leftmost written Valid Starts t :=
  ⟨rfl, by simp [found], h⟩

theorem Leftmost.next {before : Text} {b : β} {rest : Split β} (hb : Valid b)
    (hclear : Clear Starts before (written b ++ t))
    (h : rest.Leftmost written Valid Starts t) :
    (Split.next before b rest).Leftmost written Valid Starts (before ++ (written b ++ t)) := by
  obtain ⟨rfl, hvalid, hrest⟩ := h
  refine ⟨rfl, ?_, hclear, hrest⟩
  intro b' hb'
  rcases List.mem_cons.mp hb' with rfl | hin
  · exact hb
  · exact hvalid b' hin

theorem Leftmost.rest {before : Text} {b : β} {rest : Split β}
    (h : (Split.next before b rest).Leftmost written Valid Starts t) :
    rest.Leftmost written Valid Starts (rest.replaced written) :=
  ⟨rfl, fun b' hb' => h.valid b' (List.mem_cons_of_mem b hb'), h.clear.2⟩

theorem Leftmost.cons {s : Split β} {c : Char} (hc : ¬ Starts (c :: t))
    (h : s.Leftmost written Valid Starts t) :
    (s.cons c).Leftmost written Valid Starts (c :: t) := by
  obtain ⟨rfl, hvalid, hclear⟩ := h
  cases s with
  | last u => exact .last (.cons (by rwa [List.append_nil]) hclear)
  | next before b rest => exact ⟨rfl, hvalid, .cons hc hclear.1, hclear.2⟩

end Split

/-! ## Forms that see what is written -/

variable {α β : Type}

/-- A form sees what starts in front of it, and that is something valid as it is written. -/
structure Form.Sees (form : Form α) (written : β → Text) (Valid : β → Prop) (Starts : Text → Prop)
    (what : β → α) : Prop where
  written_ne_nil : ∀ b, written b ≠ []
  injective : ∀ {b b'}, Valid b → Valid b' → written b = written b' → b = b'
  found : ∀ {b}, Valid b → ∀ t, form (written b ++ t) = some (what b, (written b).length)
  starts : ∀ {t}, form t ≠ none → Starts t
  exists_written : ∀ {t}, Starts t → ∃ b rest, Valid b ∧ t = written b ++ rest

namespace Form.Sees

variable {form : Form α} {written : β → Text} {Valid : β → Prop} {what : β → α}
  (h : form.Sees written Valid Starts what)

include h

theorem starts_written {b : β} (hb : Valid b) (t : Text) : Starts (written b ++ t) := by
  apply h.starts
  rw [h.found hb]
  exact Option.some_ne_none _

theorem form_eq_none {t : Text} (ht : ¬ Starts t) : form t = none := by
  by_contra hform
  exact ht (h.starts hform)

/-- Every text can be taken apart. -/
theorem exists_leftmost (t : Text) : ∃ s : Split β, s.Leftmost written Valid Starts t := by
  -- Behind something found the scan goes on with a shorter text, which need not be the tail.
  induction hn : t.length using Nat.strongRecOn generalizing t with
  | ind n ih =>
    cases t with
    | nil => exact ⟨.last [], .last (.nil [])⟩
    | cons c t =>
      by_cases hstart : Starts (c :: t)
      · obtain ⟨b, rest, hb, heq⟩ := h.exists_written hstart
        have hless : rest.length < n := by
          have hpos := List.length_pos_iff.mpr (h.written_ne_nil b)
          rw [← hn, heq, List.length_append]
          omega
        obtain ⟨s, hs⟩ := ih rest.length hless rest rfl
        rw [heq]
        exact ⟨.next [] b s, .next hb (.nil _) hs⟩
      · have hless : t.length < n := by
          rw [← hn, List.length_cons]
          omega
        obtain ⟨s, hs⟩ := ih t.length hless t rfl
        exact ⟨s.cons c, hs.cons hstart⟩

/-- What is written is told apart by its beginning. -/
theorem written_append_inj {b b' : β} (hb : Valid b) (hb' : Valid b') {t t' : Text}
    (heq : written b ++ t = written b' ++ t') : b = b' ∧ t = t' := by
  have hfound := h.found hb t
  rw [heq, h.found hb' t', Option.some.injEq, Prod.mk.injEq] at hfound
  obtain ⟨hwritten, hrest⟩ := List.append_inj heq hfound.2.symm
  exact ⟨h.injective hb hb' hwritten, hrest⟩

/-- And it can be taken apart in one way only. -/
theorem leftmost_unique {s s' : Split β} {t : Text} (hs : s.Leftmost written Valid Starts t)
    (hs' : s'.Leftmost written Valid Starts t) : s = s' := by
  have hstart : ∀ {before : Text} {b : β} {rest : Split β} {t : Text},
      (Split.next before b rest).Leftmost written Valid Starts t →
        Starts (written b ++ rest.replaced written) :=
    fun hnext => h.starts_written (hnext.valid _ (List.mem_cons_self ..)) _
  -- With no further stretch, nothing can start any more.
  have hend : ∀ {u before : Text} {b : β} {rest : Split β},
      Clear Starts u [] → (Split.next before b rest).Leftmost written Valid Starts u → False := by
    intro u before b rest hclear hnext
    have hle := hclear.length_le (by rw [List.append_nil, ← hnext.whole]; rfl) (hstart hnext)
    have hlength := congrArg List.length hnext.whole
    have hpos := List.length_pos_iff.mpr (h.written_ne_nil b)
    rw [Split.replaced, List.length_append, List.length_append] at hlength
    omega
  induction s generalizing s' t with
  | last u =>
    obtain rfl := hs.whole
    cases s' with
    | last u' => exact congrArg Split.last hs'.whole.symm
    | next before' b' rest' => exact absurd (hend hs.clear hs') id
  | next before b rest ih =>
    cases s' with
    | last u' =>
      obtain rfl := hs'.whole
      exact absurd (hend hs'.clear hs) id
    | next before' b' rest' =>
      have hwhole : before ++ (written b ++ rest.replaced written)
          = before' ++ (written b' ++ rest'.replaced written) := hs.whole.trans hs'.whole.symm
      -- Neither stretch can be longer, since what stands behind the other would start in it.
      have hle := hs.clear.1.length_le hwhole (hstart hs')
      have hge := hs'.clear.1.length_le hwhole.symm (hstart hs)
      obtain ⟨hbefore, hbehind⟩ := List.append_inj hwhole (Nat.le_antisymm hle hge)
      obtain ⟨hb, hrest⟩ := h.written_append_inj (hs.valid b (List.mem_cons_self ..))
        (hs'.valid b' (List.mem_cons_self ..)) hbehind
      have hsame : rest = rest' := ih hs.rest (hrest ▸ hs'.rest)
      rw [hbefore, hb, hsame]

/-! ## What the scan does -/

theorem pieces_append {u behind : Text} (hu : Clear Starts u behind) :
    pieces form (u ++ behind) = u.map .plain ++ pieces form behind := by
  induction u with
  | nil => rfl
  | cons c u ih =>
    rw [List.cons_append, pieces_cons (h.form_eq_none hu.head), ih hu.tail]
    rfl

/-- The scan takes the text apart. -/
theorem pieces_eq {s : Split β} {t : Text} (hs : s.Leftmost written Valid Starts t) :
    pieces form t = s.pieces what := by
  obtain rfl := hs.whole
  induction s with
  | last u =>
    have hall := h.pieces_append hs.clear
    rwa [pieces_nil, List.append_nil, List.append_nil] at hall
  | next before b rest ih =>
    have hb : Valid b := hs.valid b (List.mem_cons_self ..)
    rw [Split.replaced, h.pieces_append hs.clear.1,
      pieces_found (h.written_ne_nil b) (h.found hb _), ih hs.rest, Split.pieces]

/-- It replaces what it finds and copies everything else. -/
theorem replaceWith_eq (f : α → Text) {s : Split β} {t : Text}
    (hs : s.Leftmost written Valid Starts t) :
    replaceWith form f t = s.replaced (fun b => f (what b)) := by
  rw [replaceWith, h.pieces_eq hs]
  clear hs
  induction s with
  | last u => exact flatMap_write_plain u
  | next before b rest ih =>
    rw [Split.pieces, List.flatMap_append, flatMap_write_plain, List.flatMap_cons, ih]
    rfl

theorem occurrences_eq {s : Split β} {t : Text} (hs : s.Leftmost written Valid Starts t) :
    occurrences form t = s.found.map what := by
  rw [occurrences, h.pieces_eq hs]
  clear hs
  induction s with
  | last u => exact filterMap_found?_plain u
  | next before b rest ih =>
    rw [Split.pieces, List.filterMap_append, filterMap_found?_plain, List.nil_append,
      List.filterMap_cons, ih]
    rfl

theorem between_eq {s : Split β} {t : Text} (hs : s.Leftmost written Valid Starts t) :
    between (pieces form t) = s.texts := by
  rw [h.pieces_eq hs]
  clear hs
  induction s with
  | last u =>
    have hplain : between (u.map (.plain : Char → Piece α) ++ []) = [u ++ []] :=
      between_plain_append u rfl
    rwa [List.append_nil, List.append_nil] at hplain
  | next before b rest ih =>
    have hfound : between (.found (what b) :: rest.pieces what) = [] :: rest.texts :=
      congrArg ([] :: ·) ih
    rw [Split.pieces, between_plain_append before hfound, List.append_nil, Split.texts]

end Form.Sees

/-! ## Marks -/

/-- A mark is seen wherever it stands. -/
theorem sees_mark {m : Text} (hm : m ≠ []) :
    (mark m).Sees (fun _ : Unit => m) (fun _ => True) (m <+: ·) id where
  written_ne_nil := fun _ => hm
  injective := fun _ _ _ => rfl
  found := fun _ t => mark_append m t
  starts := by
    intro t h
    by_contra hnot
    exact h (mark_eq_none hnot)
  exists_written := by
    rintro t ⟨rest, rfl⟩
    exact ⟨(), rest, trivial, rfl⟩

/-- The mark at which a text is cut is the nearest one. -/
theorem cut?_of_clear {m u t : Text} (hm : m ≠ []) (hu : Clear (m <+: ·) u (m ++ t)) :
    cut? m (u ++ (m ++ t)) = some (u, t) := by
  induction u with
  | nil => exact cut?_append hm .nil t
  | cons c u ih =>
    have hnone : m.isPrefixOf? (c :: (u ++ (m ++ t))) = none :=
      isPrefixOf?_eq_none (mark_eq_none hu.head)
    rw [List.cons_append, cut?, hnone, ih hu.tail]
    rfl

/-- No mark starts before the one at which a text is cut. -/
theorem clear_of_cut? {m t before after : Text} (h : cut? m t = some (before, after)) :
    Clear (m <+: ·) before (m ++ after) := by
  induction t generalizing before with
  | nil =>
    have hbefore : before = [] := by
      have ht := eq_of_cut? h
      exact (List.append_eq_nil_iff.mp ht.symm).1
    rw [hbefore]
    exact .nil _
  | cons c t ih =>
    rw [cut?] at h
    split at h
    · obtain ⟨rfl, -⟩ := Prod.mk.inj (Option.some.inj h)
      exact .nil _
    · rename_i hprefix
      obtain ⟨⟨u, v⟩, hcut, heq⟩ := Option.map_eq_some_iff.mp h
      obtain ⟨rfl, rfl⟩ := Prod.mk.inj heq
      refine .cons ?_ (ih hcut)
      rintro ⟨rest, hrest⟩
      rw [eq_of_cut? hcut, ← hrest, isPrefixOf?_append] at hprefix
      exact Option.some_ne_none _ hprefix

/-- In front of the nearest mark there is none. -/
theorem Clear.not_isInfix {m u behind : Text} (hm : m ≠ []) (h : Clear (m <+: ·) u behind) :
    ¬ m <:+: u := by
  rintro ⟨a, b, hab⟩
  refine h a (m ++ b) (by rw [← hab, List.append_assoc]) (List.append_ne_nil_of_left_ne_nil hm b) ?_
  exact ⟨b ++ behind, by rw [List.append_assoc]⟩

/-- A text that holds a mark is cut. -/
theorem exists_cut? {m t : Text} (hm : m ≠ []) (h : m <:+: t) :
    ∃ before after, cut? m t = some (before, after) := by
  induction t with
  | nil => exact absurd (List.infix_nil.mp h) hm
  | cons c t ih =>
    rw [cut?]
    cases hprefix : m.isPrefixOf? (c :: t) with
    | some after => exact ⟨[], after, rfl⟩
    | none =>
      rcases List.infix_cons_iff.mp h with ⟨rest, hrest⟩ | hinfix
      · rw [← hrest, isPrefixOf?_append] at hprefix
        exact absurd hprefix (Option.some_ne_none _)
      · obtain ⟨before, after, hcut⟩ := ih hinfix
        exact ⟨c :: before, after, by rw [hcut]; rfl⟩

theorem occursIn_iff_isInfix {m t : Text} (hm : m ≠ []) : occursIn m t = true ↔ m <:+: t := by
  unfold occursIn
  constructor
  · intro h
    obtain ⟨⟨before, after⟩, hcut⟩ := Option.isSome_iff_exists.mp h
    exact ⟨before, after, by rw [eq_of_cut? hcut, List.append_assoc]⟩
  · intro h
    obtain ⟨before, after, hcut⟩ := exists_cut? hm h
    rw [hcut]
    rfl

end Gazetteer.Text
