/-
# Gazetteer.Proofs.Text.Scan -- what a leftmost scan makes of texts put together

A scan of a long text falls apart at the seams between its parts. A form passes over a part when no
occurrence starts in it, whatever stands behind; an occurrence that fills a part is found as a whole,
and the scan goes on right behind it. With these two facts every text that is put together from such
parts is scanned part by part. The same is said of cutting at a mark and of splitting at one.
-/
import Mathlib.Data.List.Basic
import Gazetteer.Text.Scan

namespace Gazetteer.Text

variable {α : Type} {form : Form α}

/-! ## Passing over -/

/-- No occurrence of the form starts in the text, whatever stands behind it. -/
inductive Passes (form : Form α) : Text → Prop
  | nil : Passes form []
  | cons {c : Char} {u : Text} :
      (∀ t, form (c :: (u ++ t)) = none) → Passes form u → Passes form (c :: u)

theorem Passes.append {u v : Text} (hu : Passes form u) (hv : Passes form v) :
    Passes form (u ++ v) := by
  induction hu with
  | nil => exact hv
  | cons hc _ ih =>
    refine .cons ?_ ih
    intro t
    simpa using hc (v ++ t)

theorem Passes.flatMap {β : Type} {l : List β} {f : β → Text} (h : ∀ b ∈ l, Passes form (f b)) :
    Passes form (l.flatMap f) := by
  induction l with
  | nil => exact .nil
  | cons b l ih =>
    have hrest : Passes form (l.flatMap f) := ih fun b' hb' => h b' (List.mem_cons_of_mem b hb')
    rw [List.flatMap_cons]
    exact (h b (by simp)).append hrest

theorem Passes.joined {m : Text} {parts : List Text} (hm : Passes form m)
    (h : ∀ part ∈ parts, Passes form part) : Passes form (joined m parts) := by
  induction parts with
  | nil => exact .nil
  | cons u parts ih =>
    have hu : Passes form u := h u (by simp)
    cases parts with
    | nil => rwa [Text.joined, List.intercalate_singleton]
    | cons v rest =>
      rw [Text.joined, List.intercalate_cons_cons]
      exact (hu.append hm).append (ih fun part hpart => h part (List.mem_cons_of_mem u hpart))

/-- A text is passed over when none of its characters can start an occurrence. -/
theorem passes_of_forall {u : Text} (h : ∀ c ∈ u, ∀ t, form (c :: t) = none) : Passes form u := by
  induction u with
  | nil => exact .nil
  | cons c u ih =>
    have hu : Passes form u := ih fun c' hc' => h c' (List.mem_cons_of_mem c hc')
    exact .cons (fun t => h c (by simp) (u ++ t)) hu

@[simp]
theorem pieces_nil : pieces form [] = [] := rfl

theorem pieces_cons {c : Char} {t : Text} (h : form (c :: t) = none) :
    pieces form (c :: t) = .plain c :: pieces form t := by
  simp only [pieces, piecesFrom, h]

/-- What is passed over is plain. -/
theorem Passes.pieces_append {u : Text} (hu : Passes form u) (t : Text) :
    pieces form (u ++ t) = u.map .plain ++ pieces form t := by
  induction hu with
  | nil => rfl
  | cons hc _ ih =>
    rw [List.cons_append, pieces_cons (hc t), ih]
    rfl

/-! ## Finding -/

theorem piecesFrom_append (u t : Text) : piecesFrom form u.length (u ++ t) = pieces form t := by
  induction u with
  | nil => rfl
  | cons c u ih => exact ih

/-- An occurrence that fills a part of a text is found as a whole. -/
theorem pieces_found {u t : Text} {what : α} (hu : u ≠ [])
    (h : form (u ++ t) = some (what, u.length)) :
    pieces form (u ++ t) = .found what :: pieces form t := by
  obtain ⟨c, u, rfl⟩ := List.exists_cons_of_ne_nil hu
  have hrest : piecesFrom form ((c :: u).length - 1) (u ++ t) = pieces form t :=
    piecesFrom_append u t
  rw [List.cons_append] at h ⊢
  rw [← hrest, pieces, piecesFrom, h]

/-! ## Part by part -/

/-- A function that takes each part of a text off the front takes all of them off. -/
theorem flatMap_parts {β γ : Type} {stage : Text → List γ} {f : β → Text} {g : β → List γ}
    {l : List β} (h : ∀ b ∈ l, ∀ t, stage (f b ++ t) = g b ++ stage t) (t : Text) :
    stage (l.flatMap f ++ t) = l.flatMap g ++ stage t := by
  induction l with
  | nil => rfl
  | cons b l ih =>
    have hrest := ih fun b' hb' => h b' (List.mem_cons_of_mem b hb')
    rw [List.flatMap_cons, List.flatMap_cons, List.append_assoc, h b (by simp), hrest,
      List.append_assoc]

/-- It does so as well where something stands between the parts that it passes over. -/
theorem joined_parts {β γ : Type} {stage : Text → List γ} {m : Text} {f : β → Text}
    {g : β → List γ} {l : List β} (hm : ∀ t, stage (m ++ t) = stage t)
    (h : ∀ b ∈ l, ∀ t, stage (f b ++ t) = g b ++ stage t) (t : Text) :
    stage (joined m (l.map f) ++ t) = l.flatMap g ++ stage t := by
  induction l with
  | nil => rfl
  | cons b l ih =>
    have hb := h b (by simp)
    have hrest := ih fun b' hb' => h b' (List.mem_cons_of_mem b hb')
    cases l with
    | nil => rw [List.map_singleton, joined, List.intercalate_singleton, hb, List.flatMap_singleton]
    | cons b' l =>
      rw [List.map_cons, joined] at hrest
      rw [List.map_cons, List.map_cons, joined, List.intercalate_cons_cons, List.append_assoc,
        List.append_assoc, hb, hm, hrest, List.flatMap_cons (x := b), List.append_assoc]

/-- With nothing behind the parts, nothing else is left. -/
theorem flatMap_whole {β γ : Type} {stage : Text → List γ} {f : β → Text} {g : β → List γ}
    {l : List β} (hnil : stage [] = []) (h : ∀ b ∈ l, ∀ t, stage (f b ++ t) = g b ++ stage t) :
    stage (l.flatMap f) = l.flatMap g := by
  have hparts := flatMap_parts h []
  rwa [hnil, List.append_nil, List.append_nil] at hparts

/-! ## Text behind -/

/-- The text that stands behind makes no difference to what the form sees in front of it. -/
structure Form.Ignores (form : Form α) (b : Text) : Prop where
  size_le : ∀ {u what size}, form u = some (what, size) → size ≤ u.length
  append : ∀ {u}, u ≠ [] → form (u ++ b) = form u
  passes : Passes form b

theorem Form.Ignores.piecesFrom_append {b : Text} (h : form.Ignores b) {u : Text} {skip : Nat}
    (hskip : skip ≤ u.length) :
    piecesFrom form skip (u ++ b) = piecesFrom form skip u ++ b.map .plain := by
  induction u generalizing skip with
  | nil =>
    have hzero : skip = 0 := by simpa using hskip
    have hb : pieces form (b ++ []) = b.map .plain ++ [] := h.passes.pieces_append []
    simpa [hzero, pieces, piecesFrom] using hb
  | cons c u ih =>
    cases skip with
    -- The rest of an occurrence is skipped, and it ends in front of `b`.
    | succ skip => exact ih (by simpa using hskip)
    | zero =>
      have hform : form (c :: (u ++ b)) = form (c :: u) :=
        h.append (List.cons_ne_nil c u)
      rw [List.cons_append, piecesFrom, piecesFrom, hform]
      cases hfound : form (c :: u) with
      | none =>
        have hrest := ih (Nat.zero_le u.length)
        simp only [hrest, List.cons_append]
      | some found =>
        have hsize : found.2 - 1 ≤ u.length := by
          have hle := h.size_le hfound
          simp only [List.length_cons] at hle
          omega
        simp only [ih hsize, List.cons_append]

/-- Text at both ends in which nothing is seen is plain. -/
theorem Form.Ignores.pieces_between {a b : Text} (ha : Passes form a) (hb : form.Ignores b)
    (u : Text) :
    pieces form (a ++ (u ++ b)) = a.map .plain ++ (pieces form u ++ b.map .plain) := by
  have hback : pieces form (u ++ b) = pieces form u ++ b.map .plain :=
    hb.piecesFrom_append (Nat.zero_le u.length)
  rw [ha.pieces_append, hback]

/-! ## Occurrences -/

@[simp]
theorem occurrences_nil : occurrences form [] = [] := rfl

theorem filterMap_found?_plain (u : Text) :
    (u.map Piece.plain).filterMap (Piece.found? (α := α)) = [] := by
  induction u with
  | nil => rfl
  | cons c u ih => exact ih

/-- What is passed over holds no occurrence. -/
theorem Passes.occurrences_append {u : Text} (hu : Passes form u) (t : Text) :
    occurrences form (u ++ t) = occurrences form t := by
  rw [occurrences, hu.pieces_append, List.filterMap_append, filterMap_found?_plain,
    List.nil_append, occurrences]

/-- What is found is an occurrence, and the rest is scanned on its own. -/
theorem occurrences_found {u t : Text} {what : α} (hu : u ≠ [])
    (h : form (u ++ t) = some (what, u.length)) :
    occurrences form (u ++ t) = what :: occurrences form t := by
  rw [occurrences, pieces_found hu h, List.filterMap_cons, occurrences]
  rfl

/-- Text at both ends in which nothing is seen holds no occurrence. -/
theorem Form.Ignores.occurrences_between {a b : Text} (ha : Passes form a) (hb : form.Ignores b)
    (u : Text) : occurrences form (a ++ (u ++ b)) = occurrences form u := by
  rw [occurrences, hb.pieces_between ha, List.filterMap_append, List.filterMap_append,
    filterMap_found?_plain, filterMap_found?_plain, List.nil_append, List.append_nil, occurrences]

/-! ## Replacing -/

variable {f : α → Text}

@[simp]
theorem replaceWith_nil : replaceWith form f [] = [] := rfl

theorem flatMap_write_plain (u : Text) : (u.map Piece.plain).flatMap (Piece.write f) = u := by
  induction u with
  | nil => rfl
  | cons c u ih => simp [Piece.write, ih]

/-- Only what the occurrences are replaced by matters. -/
theorem replaceWith_congr {g : α → Text} {t : Text}
    (h : ∀ what ∈ occurrences form t, f what = g what) :
    replaceWith form f t = replaceWith form g t := by
  rw [replaceWith, replaceWith, List.flatMap_def, List.flatMap_def]
  refine congrArg List.flatten (List.map_congr_left fun p hp => ?_)
  cases p with
  | plain c => rfl
  | found what => exact h what (List.mem_filterMap.mpr ⟨.found what, hp, rfl⟩)

/-- What is passed over stays as it is. -/
theorem Passes.replaceWith_append {u : Text} (hu : Passes form u) (t : Text) :
    replaceWith form f (u ++ t) = u ++ replaceWith form f t := by
  rw [replaceWith, hu.pieces_append, List.flatMap_append, flatMap_write_plain, replaceWith]

/-- What is found is replaced, and the rest is scanned on its own. -/
theorem replaceWith_found {u t : Text} {what : α} (hu : u ≠ [])
    (h : form (u ++ t) = some (what, u.length)) :
    replaceWith form f (u ++ t) = f what ++ replaceWith form f t := by
  rw [replaceWith, pieces_found hu h, List.flatMap_cons, replaceWith]
  rfl

/-- Text at both ends in which nothing is seen stays around what the scan leaves. -/
theorem Form.Ignores.replaceWith_between {a b : Text} (ha : Passes form a) (hb : form.Ignores b)
    (u : Text) : replaceWith form f (a ++ (u ++ b)) = a ++ (replaceWith form f u ++ b) := by
  rw [replaceWith, hb.pieces_between ha, List.flatMap_append, List.flatMap_append,
    flatMap_write_plain, flatMap_write_plain, replaceWith]

/-! ## Cutting at a mark -/

theorem mark_eq_none {m t : Text} (h : ¬ m <+: t) : mark m t = none := by
  have hfalse : m.isPrefixOf t = false := by
    rw [Bool.eq_false_iff]
    exact fun htrue => h (List.isPrefixOf_iff_prefix.mp htrue)
  rw [mark, hfalse]
  rfl

/-- A mark is found wherever it stands. -/
theorem mark_append (m t : Text) : mark m (m ++ t) = some ((), m.length) := by
  simp [mark]

theorem isPrefixOf?_append (m t : Text) : m.isPrefixOf? (m ++ t) = some t :=
  List.isPrefixOf?_eq_some_iff_append_eq.mpr rfl

/-- Text behind is no part of a mark that shares no character with it. -/
theorem isPrefixOf?_append_of_notMem {m b : Text} (h : ∀ c ∈ m, c ∉ b) (t : Text) :
    m.isPrefixOf? (t ++ b) = (m.isPrefixOf? t).map (· ++ b) := by
  induction m generalizing t with
  | nil => simp [List.isPrefixOf?]
  | cons c m ih =>
    cases t with
    | nil =>
      cases b with
      | nil => rfl
      | cons d b =>
        have hd : (c == d) = false := by
          rw [beq_eq_false_iff_ne]
          rintro rfl
          exact h c (by simp) (by simp)
        simp [List.isPrefixOf?, hd]
    | cons d t =>
      rw [List.cons_append, List.isPrefixOf?, List.isPrefixOf?,
        ih (fun c hc => h c (List.mem_cons_of_mem _ hc))]
      split <;> rfl

theorem isPrefixOf?_eq_none {m t : Text} (h : mark m t = none) : m.isPrefixOf? t = none := by
  rw [Option.eq_none_iff_forall_ne_some]
  intro after hafter
  rw [← List.isPrefixOf?_eq_some_iff_append_eq.mp hafter, mark_append] at h
  exact absurd h (by simp)

/-- The mark at which a text is cut is the nearest one. -/
theorem cut?_append {m u : Text} (hm : m ≠ []) (hu : Passes (mark m) u) (t : Text) :
    cut? m (u ++ (m ++ t)) = some (u, t) := by
  induction hu with
  | nil =>
    obtain ⟨c, m', rfl⟩ := List.exists_cons_of_ne_nil hm
    have hfound : (c :: m').isPrefixOf? (c :: (m' ++ t)) = some t := isPrefixOf?_append (c :: m') t
    rw [List.nil_append, List.cons_append, cut?, hfound]
  | cons hc _ ih =>
    rw [List.cons_append, cut?, isPrefixOf?_eq_none (hc (m ++ t)), ih]
    rfl

theorem cut?_of_notMem {m b : Text} (hm : m ≠ []) (h : ∀ c ∈ m, c ∉ b) : cut? m b = none := by
  obtain ⟨c, m, rfl⟩ := List.exists_cons_of_ne_nil hm
  induction b with
  | nil => rfl
  | cons d b ih =>
    have hd : (c == d) = false := by
      rw [beq_eq_false_iff_ne]
      rintro rfl
      exact h c (by simp) (by simp)
    have hrest : cut? (c :: m) b = none :=
      ih fun x hx hmem => h x hx (List.mem_cons_of_mem _ hmem)
    rw [cut?, List.isPrefixOf?, hd, hrest]
    rfl

/-- Text that shares no character with a mark stays behind the text that is cut at it. -/
theorem cut?_append_of_notMem {m b : Text} (hm : m ≠ []) (h : ∀ c ∈ m, c ∉ b) (t : Text) :
    cut? m (t ++ b) = (cut? m t).map (fun (before, after) => (before, after ++ b)) := by
  induction t with
  | nil =>
    rw [List.nil_append, cut?_of_notMem hm h, cut?_of_notMem hm (by simp)]
    rfl
  | cons c t ih =>
    have hprefix : m.isPrefixOf? (c :: (t ++ b)) = (m.isPrefixOf? (c :: t)).map (· ++ b) :=
      isPrefixOf?_append_of_notMem h (c :: t)
    rw [List.cons_append, cut?, cut?, hprefix]
    cases m.isPrefixOf? (c :: t) with
    | some after => rfl
    | none =>
      rw [Option.map_none, ih, Option.map_map, Option.map_map]
      rfl

/-- A text that is cut is what stands before the mark, the mark, and what stands after. -/
theorem eq_of_cut? {m t before after : Text} (h : cut? m t = some (before, after)) :
    t = before ++ (m ++ after) := by
  induction t generalizing before with
  | nil =>
    rw [cut?] at h
    split at h
    · rename_i hempty
      obtain ⟨rfl, rfl⟩ := Prod.mk.inj (Option.some.inj h)
      rw [List.isEmpty_iff.mp hempty]
      rfl
    · exact absurd h (by simp)
  | cons c t ih =>
    rw [cut?] at h
    split at h
    · rename_i hprefix
      obtain ⟨rfl, rfl⟩ := Prod.mk.inj (Option.some.inj h)
      exact (List.isPrefixOf?_eq_some_iff_append_eq.mp hprefix).symm
    · obtain ⟨⟨u, v⟩, hcut, heq⟩ := Option.map_eq_some_iff.mp h
      obtain ⟨rfl, rfl⟩ := Prod.mk.inj heq
      rw [ih hcut, List.cons_append]

/-! ## Splitting at a mark -/

theorem between_plain_append (u : Text) {ps : List (Piece α)} {first : Text} {others : List Text}
    (h : between ps = first :: others) :
    between (u.map .plain ++ ps) = (u ++ first) :: others := by
  induction u with
  | nil => exact h
  | cons c u ih => simp [between, ih]

theorem splitOn_eq_singleton {m u : Text} (hu : Passes (mark m) u) : splitOn m u = [u] := by
  have hplain : pieces (mark m) u = u.map .plain ++ [] := by simpa using hu.pieces_append []
  rw [splitOn, hplain, between_plain_append u rfl, List.append_nil]

theorem splitOn_append_mark {m u : Text} (hm : m ≠ []) (hu : Passes (mark m) u) (t : Text) :
    splitOn m (u ++ (m ++ t)) = u :: splitOn m t := by
  -- The mark itself makes an empty part, which takes in what stands in front of it.
  have hfound : between (pieces (mark m) (m ++ t)) = [] :: splitOn m t := by
    rw [pieces_found hm (mark_append m t)]
    rfl
  rw [splitOn, hu.pieces_append, between_plain_append u hfound, List.append_nil]

/-- Parts in which no mark starts are the parts of the text that joins them with marks between. -/
theorem splitOn_joined {m : Text} (hm : m ≠ []) {parts : List Text} (hne : parts ≠ [])
    (h : ∀ part ∈ parts, Passes (mark m) part) : splitOn m (joined m parts) = parts := by
  induction parts with
  | nil => exact absurd rfl hne
  | cons u parts ih =>
    have hu : Passes (mark m) u := h u (by simp)
    cases parts with
    | nil =>
      rw [joined, List.intercalate_singleton]
      exact splitOn_eq_singleton hu
    | cons v rest =>
      have hrest : splitOn m (joined m (v :: rest)) = v :: rest :=
        ih (by simp) fun part hpart => h part (List.mem_cons_of_mem u hpart)
      rw [joined, List.intercalate_cons_cons, List.append_assoc, splitOn_append_mark hm hu]
      exact congrArg (u :: ·) hrest

/-! ## Where the characters come from -/

/-- What is found is seen somewhere in the text. -/
theorem exists_of_mem_piecesFrom {what : α} {skip : Nat} {t : Text}
    (h : .found what ∈ piecesFrom form skip t) :
    ∃ u v size, t = u ++ v ∧ form v = some (what, size) := by
  induction t generalizing skip with
  | nil => cases skip <;> exact absurd h List.not_mem_nil
  | cons c t ih =>
    have hlater : ∀ {skip}, .found what ∈ piecesFrom form skip t →
        ∃ u v size, c :: t = u ++ v ∧ form v = some (what, size) := by
      intro skip hmem
      obtain ⟨u, v, size, rfl, hv⟩ := ih hmem
      exact ⟨c :: u, v, size, rfl, hv⟩
    cases skip with
    | succ skip => exact hlater h
    | zero =>
      rw [piecesFrom] at h
      split at h
      · rename_i other size hform
        rcases List.mem_cons.mp h with heq | hmem
        · obtain rfl := Piece.found.inj heq
          exact ⟨[], c :: t, size, rfl, hform⟩
        · exact hlater hmem
      · rcases List.mem_cons.mp h with heq | hmem
        · exact absurd heq (by simp)
        · exact hlater hmem

theorem exists_of_mem_occurrences {what : α} {t : Text} (h : what ∈ occurrences form t) :
    ∃ u v size, t = u ++ v ∧ form v = some (what, size) := by
  obtain ⟨p, hp, hfound⟩ := List.mem_filterMap.mp h
  cases p with
  | plain c => exact absurd hfound (by simp [Piece.found?])
  | found other =>
    obtain rfl := Option.some.inj hfound
    exact exists_of_mem_piecesFrom hp

/-- What is plain is a character of the text. -/
theorem mem_of_plain_mem_piecesFrom {c : Char} {skip : Nat} {t : Text}
    (h : .plain c ∈ piecesFrom form skip t) : c ∈ t := by
  induction t generalizing skip with
  | nil => cases skip <;> exact absurd h List.not_mem_nil
  | cons d t ih =>
    cases skip with
    | succ skip => exact List.mem_cons_of_mem d (ih h)
    | zero =>
      rw [piecesFrom] at h
      split at h
      · rcases List.mem_cons.mp h with heq | hmem
        · exact absurd heq (by simp)
        · exact List.mem_cons_of_mem d (ih hmem)
      · rcases List.mem_cons.mp h with heq | hmem
        · rw [Piece.plain.inj heq]
          exact List.mem_cons_self
        · exact List.mem_cons_of_mem d (ih hmem)

/-- A character of what is left stands in the text or in what an occurrence is replaced by. -/
theorem mem_replaceWith {c : Char} {t : Text} (h : c ∈ replaceWith form f t) :
    c ∈ t ∨ ∃ what ∈ occurrences form t, c ∈ f what := by
  obtain ⟨p, hp, hc⟩ := List.mem_flatMap.mp h
  cases p with
  | plain d =>
    obtain rfl := List.mem_singleton.mp hc
    exact Or.inl (mem_of_plain_mem_piecesFrom hp)
  | found what => exact Or.inr ⟨what, List.mem_filterMap.mpr ⟨.found what, hp, rfl⟩, hc⟩

theorem plain_mem_of_mem_between {c : Char} {part : Text} {ps : List (Piece α)}
    (hpart : part ∈ between ps) (hc : c ∈ part) : .plain c ∈ ps := by
  induction ps generalizing part with
  | nil =>
    rw [List.mem_singleton.mp hpart] at hc
    exact absurd hc List.not_mem_nil
  | cons p ps ih =>
    cases p with
    | found what =>
      rcases List.mem_cons.mp hpart with rfl | hlater
      · exact absurd hc List.not_mem_nil
      · exact List.mem_cons_of_mem _ (ih hlater hc)
    | plain d =>
      -- The first of the later parts takes the character in front.
      have hparts : ∀ {part}, part ∈ between ps → c ∈ part → .plain c ∈ .plain d :: ps :=
        fun hmem hin => List.mem_cons_of_mem _ (ih hmem hin)
      rw [between] at hpart
      split at hpart
      · rw [List.mem_singleton.mp hpart] at hc
        rw [List.mem_singleton.mp hc]
        exact List.mem_cons_self
      · rename_i first others hbetween
        rcases List.mem_cons.mp hpart with rfl | hlater
        · rcases List.mem_cons.mp hc with rfl | hin
          · exact List.mem_cons_self
          · exact hparts (by rw [hbetween]; exact List.mem_cons_self) hin
        · exact hparts (by rw [hbetween]; exact List.mem_cons_of_mem _ hlater) hc

/-- The parts of a text are made of its characters. -/
theorem mem_of_mem_splitOn {c : Char} {m t part : Text} (hpart : part ∈ splitOn m t)
    (hc : c ∈ part) : c ∈ t :=
  mem_of_plain_mem_piecesFrom (plain_mem_of_mem_between hpart hc)

end Gazetteer.Text
