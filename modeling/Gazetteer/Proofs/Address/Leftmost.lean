/-
# Gazetteer.Proofs.Address.Leftmost -- blocks are matched leftmost, up to the nearest closing tag

The first two stages of rendering look for blocks in texts that may hold anything: tags that are
never closed, tags inside bodies, braces in a row. Each of the stages takes a text apart at the
blocks that start in it, from left to right, and a block ends at the nearest tag that closes it.
There is only one way to take a text apart like that, so the stages are described without the scan:
what stands outside the blocks is copied, every block is replaced, and the keys are asked for in the
order of the blocks.

A closing tag may start in a body only if the whole of it stands there, since a tag never overlaps
another copy of itself. Two bars may overlap: of three, the first two part the alternatives.
-/
import Gazetteer.Proofs.Address.Meaning
import Gazetteer.Proofs.Address.Trimming
import Gazetteer.Proofs.Text.Leftmost

namespace Gazetteer.Address.Template

open Text (Clear Split mark)

/-! ## Nearest closing tags -/

/-- A tag that starts in a text with another copy of it behind stands in the text as a whole. -/
theorem clear_of_not_isInfix {r u : Text} (hr : r ≠ []) (hbrace : '{' ∉ r)
    (h : ¬ opening ++ r <:+: u) (t : Text) :
    Clear (opening ++ r <+: ·) u (opening ++ r ++ t) := by
  intro a v hu hv hstart
  by_cases hlength : (opening ++ r).length ≤ v.length
  · have hwhole : opening ++ r <+: v :=
      List.prefix_of_prefix_length_le hstart (List.prefix_append v _) hlength
    apply h
    rw [hu]
    exact hwhole.isInfix.trans (List.suffix_append a v).isInfix
  -- Else the copy behind starts inside the tag, and only its first two characters are braces.
  · obtain ⟨c, v, rfl⟩ := List.exists_cons_of_ne_nil hv
    have hfirst := (List.cons_prefix_cons.mp hstart).2
    cases v with
    | nil =>
      have hsecond : r <+: '{' :: (r ++ t) := (List.cons_prefix_cons.mp hfirst).2
      obtain ⟨d, r, rfl⟩ := List.exists_cons_of_ne_nil hr
      rw [(List.cons_prefix_cons.mp hsecond).1] at hbrace
      exact hbrace (List.mem_cons_self ..)
    | cons d v =>
      have hrest : r <+: v ++ (opening ++ r ++ t) := (List.cons_prefix_cons.mp hfirst).2
      have hshort : v.length < r.length := by
        simp only [opening, List.length_append, List.length_cons, List.length_nil] at hlength
        omega
      obtain ⟨w, rfl⟩ := List.prefix_of_prefix_length_le (List.prefix_append v _) hrest
        (Nat.le_of_lt hshort)
      have hw := (List.prefix_append_right_inj v).mp hrest
      cases w with
      | nil =>
        rw [List.append_nil] at hshort
        exact Nat.lt_irrefl _ hshort
      | cons e w =>
        rw [(List.cons_prefix_cons.mp hw).1] at hbrace
        exact hbrace (List.mem_append_right v (List.mem_cons_self ..))

theorem tag_ne_nil (s : Text) : tag s ≠ [] := by
  simp [tag, opening]

/-- Where a body holds no closing tag, the tag behind it is the one at which the text is cut. -/
theorem cut?_closing {k body : Text} (hk : IsKey k) (h : ¬ tag ('/' :: k) <:+: body) (t : Text) :
    Text.cut? (tag ('/' :: k)) (body ++ (tag ('/' :: k) ++ t)) = some (body, t) := by
  have hbrace : '{' ∉ '/' :: k ++ closing := by
    have hmem : '{' ∉ k := hk.notMem (by decide)
    simp [closing, hmem]
  have htag : tag ('/' :: k) = opening ++ ('/' :: k ++ closing) := List.append_assoc ..
  apply Text.cut?_of_clear (tag_ne_nil _)
  rw [htag] at h ⊢
  exact clear_of_not_isInfix (by simp) hbrace h t

/-! ## Sections -/

/-- The text of a section. -/
def Section.written (s : Section) : Text :=
  tag ((if s.inverted then '^' else '#') :: s.key) ++ (s.body ++ tag ('/' :: s.key))

/-- The section has a key, and its body holds no tag that would close it. -/
def Section.Nearest (s : Section) : Prop := IsKey s.key ∧ ¬ tag ('/' :: s.key) <:+: s.body

/-- The text starts with the opening tag of a section, and a tag that closes it stands somewhere
behind. -/
def OpensSection (t : Text) : Prop :=
  ∃ (key : Text) (inverted : Bool) (content : Text), IsKey key
    ∧ t = tag ((if inverted then '^' else '#') :: key) ++ content ∧ tag ('/' :: key) <:+: content

theorem sectionSign?_eq_some_iff {sign : Char} {inverted : Bool} :
    sectionSign? sign = some inverted ↔ sign = if inverted then '^' else '#' := by
  constructor
  · intro h
    unfold sectionSign? at h
    split at h
    · rw [← Option.some.inj h]
      rfl
    · rw [← Option.some.inj h]
      rfl
    · exact absurd h (by simp)
  · rintro rfl
    cases inverted <;> rfl

theorem section?_of_nearest {s : Section} (hs : s.Nearest) (t : Text) : section? (s.written ++ t)
    = some (s, s.written.length) := by
  have hsign : sectionSign? (if s.inverted then '^' else '#') = some s.inverted :=
    sectionSign?_eq_some_iff.mpr rfl
  unfold Section.written
  rw [List.append_assoc, List.append_assoc]
  exact section?_of_cut? hs.1 (cut?_closing hs.1 hs.2 t) hsign

/-- The scan for sections sees a section up to its nearest closing tag, wherever it is opened and
closed. -/
theorem sees_section :
    Text.Form.Sees section? Section.written Section.Nearest OpensSection id where
  written_ne_nil := fun _ => List.append_ne_nil_of_left_ne_nil (tag_ne_nil _) _
  injective := by
    intro s s' hs hs' heq
    have hfound := section?_of_nearest hs []
    rw [heq, section?_of_nearest hs' [], Option.some.injEq, Prod.mk.injEq] at hfound
    exact hfound.1.symm
  found := section?_of_nearest
  starts := by
    intro t h
    obtain ⟨⟨s, size⟩, hfound⟩ := Option.ne_none_iff_exists'.mp h
    obtain ⟨sign, after, hsign, hkey, rfl, -⟩ := of_section? hfound
    refine ⟨s.key, s.inverted, _, hkey, ?_, s.body, after, List.append_assoc ..⟩
    rw [sectionSign?_eq_some_iff.mp hsign]
  exists_written := by
    rintro t ⟨key, inverted, content, hkey, rfl, hclosed⟩
    obtain ⟨body, after, hcut⟩ := Text.exists_cut? (tag_ne_nil _) hclosed
    have hbody : ¬ tag ('/' :: key) <:+: body :=
      (Text.clear_of_cut? hcut).not_isInfix (tag_ne_nil _)
    refine ⟨⟨key, inverted, body⟩, after, ⟨hkey, hbody⟩, ?_⟩
    rw [Text.eq_of_cut? hcut]
    simp only [Section.written, List.append_assoc]

/-! ## First-blocks -/

/-- The text of a first-block with some text between its tags. -/
def firstWritten (body : Text) : Text := firstOpen ++ (body ++ firstClose)

/-- The text holds no tag that would close a first-block. -/
def IsFirstBody (body : Text) : Prop := ¬ firstClose <:+: body

/-- The text starts with the opening tag of a first-block, and a closing tag stands somewhere
behind. -/
def OpensFirstBlock (t : Text) : Prop :=
  ∃ content, t = firstOpen ++ content ∧ firstClose <:+: content

/-- The scan for first-blocks sees one up to its nearest closing tag, wherever it is opened and
closed. -/
theorem sees_firstBlock :
    Text.Form.Sees firstBlock? firstWritten IsFirstBody OpensFirstBlock alternatives where
  written_ne_nil := fun _ => List.append_ne_nil_of_left_ne_nil (tag_ne_nil _) _
  injective := by
    intro body body' _ _ heq
    exact List.append_cancel_right (List.append_cancel_left heq)
  found := by
    intro body hbody t
    unfold firstWritten
    rw [List.append_assoc, List.append_assoc]
    exact firstBlock?_of_cut? (cut?_closing (k := "first") (by decide) hbody t)
  starts := by
    intro t h
    obtain ⟨⟨found, size⟩, hfound⟩ := Option.ne_none_iff_exists'.mp h
    obtain ⟨body, after, -, rfl, -⟩ := of_firstBlock? hfound
    exact ⟨_, rfl, body, after, List.append_assoc ..⟩
  exists_written := by
    rintro t ⟨content, rfl, hclosed⟩
    have hne : firstClose ≠ [] := tag_ne_nil _
    obtain ⟨body, after, hcut⟩ := Text.exists_cut? hne hclosed
    refine ⟨body, after, (Text.clear_of_cut? hcut).not_isInfix hne, ?_⟩
    rw [Text.eq_of_cut? hcut]
    simp only [firstWritten, List.append_assoc]

/-- The alternatives up to and including the first that renders to something. -/
def lookedAt (resolve : Resolver) (alternatives : List Text) : List Text :=
  alternatives.take
    (alternatives.findIdx (fun t => !(renderAlternative resolve t).isEmpty) + 1)

variable {resolve : Resolver}

theorem chosenKeys_eq (alternatives : List Text) :
    chosenKeys resolve alternatives
      = (lookedAt resolve alternatives).flatMap substitutionKeys := by
  induction alternatives with
  | nil => rfl
  | cons t rest ih =>
    unfold lookedAt at ih ⊢
    rw [chosenKeys, List.findIdx_cons]
    cases hempty : (renderAlternative resolve t).isEmpty with
    | true =>
      simp only [Bool.not_true, cond_false, List.take_succ_cons, List.flatMap_cons, if_true, ih]
    | false =>
      simp

/-- The ends of the alternatives may be trimmed or not. -/
theorem chosenKeys_map_trim (alternatives : List Text) :
    chosenKeys resolve (alternatives.map Text.trim) = chosenKeys resolve alternatives := by
  induction alternatives with
  | nil => rfl
  | cons t rest ih =>
    rw [List.map_cons, chosenKeys, chosenKeys, substitutionKeys_trim, renderAlternative_trim, ih,
      renderAlternative]

theorem chooseFirst_map_trim (alternatives : List Text) :
    chooseFirst resolve (alternatives.map Text.trim) = chooseFirst resolve alternatives := by
  induction alternatives with
  | nil => rfl
  | cons t rest ih =>
    rw [List.map_cons, chooseFirst, chooseFirst, renderAlternative_trim, ih, renderAlternative]

/-! ## The two stages -/

variable {t : Text}

theorem resolveSections_replaced {s : Split Section}
    (hs : s.Leftmost Section.written Section.Nearest OpensSection t) :
    resolveSections resolve t
        = s.replaced (fun b => if stands resolve b.key b.inverted then b.body else [])
      ∧ sectionKeys t = s.found.map Section.key := by
  constructor
  · rw [resolveSections, sees_section.replaceWith_eq _ hs]
    exact congrArg s.replaced (funext fun b => expand_eq b.key b.body b.inverted)
  · rw [sectionKeys, sees_section.occurrences_eq hs, List.map_id]

/-- What a first-block leaves: the first of its alternatives that renders to something. -/
theorem chooseFirst_alternatives (body : Text) :
    chooseFirst resolve (alternatives body)
      = (((Text.splitOn "||" body).map (fun a => Text.trim (substitute resolve a))).find?
          (fun r => !r.isEmpty)).getD [] := by
  rw [alternatives, chooseFirst_map_trim, chooseFirst_eq]
  rfl

theorem chosenKeys_alternatives (body : Text) :
    chosenKeys resolve (alternatives body)
      = (lookedAt resolve (Text.splitOn "||" body)).flatMap substitutionKeys := by
  rw [alternatives, chosenKeys_map_trim, chosenKeys_eq]

theorem resolveFirstBlocks_replaced {s : Split Text}
    (hs : s.Leftmost firstWritten IsFirstBody OpensFirstBlock t) :
    resolveFirstBlocks resolve t
        = s.replaced (fun body =>
          (((Text.splitOn "||" body).map (fun a => Text.trim (substitute resolve a))).find?
            (fun r => !r.isEmpty)).getD [])
      ∧ firstBlockKeys resolve t
        = s.found.flatMap (fun body =>
          (lookedAt resolve (Text.splitOn "||" body)).flatMap substitutionKeys) := by
  constructor
  · rw [resolveFirstBlocks, sees_firstBlock.replaceWith_eq _ hs]
    exact congrArg s.replaced (funext chooseFirst_alternatives)
  · rw [firstBlockKeys, sees_firstBlock.occurrences_eq hs, List.flatMap_map]
    exact congrArg s.found.flatMap (funext chosenKeys_alternatives)

/-- **Blocks are matched leftmost, up to the nearest closing tag.** There is exactly one way to take
a text apart at its sections so that none is opened, with a closing tag behind, in what stands
between them. The section stage replaces each by its body or nothing, copies the rest and asks for
the keys of the sections in order. The same holds of first-blocks: each is replaced by the first of
its alternatives that renders to something, and only the keys up to that alternative are asked for.
And the alternatives are what stands between the bars, of which each pair is the leftmost there
is. -/
theorem resolveBlocks_leftmost (resolve : Resolver) (t : Text) :
    (∃ s : Split Section, s.Leftmost Section.written Section.Nearest OpensSection t
      ∧ (∀ s' : Split Section,
        s'.Leftmost Section.written Section.Nearest OpensSection t → s' = s)
      ∧ resolveSections resolve t
        = s.replaced (fun b => if stands resolve b.key b.inverted then b.body else [])
      ∧ sectionKeys t = s.found.map Section.key)
    ∧ (∃ s : Split Text, s.Leftmost firstWritten IsFirstBody OpensFirstBlock t
      ∧ (∀ s' : Split Text, s'.Leftmost firstWritten IsFirstBody OpensFirstBlock t → s' = s)
      ∧ resolveFirstBlocks resolve t
        = s.replaced (fun body =>
          (((Text.splitOn "||" body).map (fun a => Text.trim (substitute resolve a))).find?
            (fun r => !r.isEmpty)).getD [])
      ∧ firstBlockKeys resolve t
        = s.found.flatMap (fun body =>
          (lookedAt resolve (Text.splitOn "||" body)).flatMap substitutionKeys))
    ∧ ∀ body, ∃ s : Split Unit,
      s.Leftmost (fun _ => "||") (fun _ => True) ("||".toList <+: ·) body
      ∧ (∀ s' : Split Unit,
        s'.Leftmost (fun _ => "||") (fun _ => True) ("||".toList <+: ·) body → s' = s)
      ∧ Text.splitOn "||" body = s.texts := by
  refine ⟨?_, ?_, fun body => ?_⟩
  · obtain ⟨s, hs⟩ := sees_section.exists_leftmost t
    exact ⟨s, hs, fun s' hs' => sees_section.leftmost_unique hs' hs, resolveSections_replaced hs⟩
  · obtain ⟨s, hs⟩ := sees_firstBlock.exists_leftmost t
    exact ⟨s, hs, fun s' hs' => sees_firstBlock.leftmost_unique hs' hs,
      resolveFirstBlocks_replaced hs⟩
  · have hbars : Text.Form.Sees (mark "||") (fun _ : Unit => "||") (fun _ => True)
        ("||".toList <+: ·) id := Text.sees_mark (by decide)
    obtain ⟨s, hs⟩ := hbars.exists_leftmost body
    exact ⟨s, hs, fun s' hs' => hbars.leftmost_unique hs' hs, hbars.between_eq hs⟩

/-- A third brace in front of a tag, a section inside another, one that is not opened and one that
is not closed, and three bars in a row. -/
theorem resolveBlocks_leftmost_overlapping :
    let resolve : Resolver := fun key => if key = "a".toList then " A " else []
    let line : Text := (["\x7b", tag "#a", "1", tag "#b", "2", tag "/b", tag "/a", tag "/b",
      tag "^b", "3", tag "/b", tag "#b"] : List Text).flatten
    let block : Text := firstWritten ([tag "b", "|||", tag "a", "||", tag "c"] : List Text).flatten
    (∃ s : Split Section, s.Leftmost Section.written Section.Nearest OpensSection line
      ∧ s.found.map Section.key = (["a", "b"] : List Text)
      ∧ s.replaced (fun b => if stands resolve b.key b.inverted then b.body else [])
        = (["\x7b1", tag "#b", "2", tag "/b", tag "/b", "3", tag "#b"] : List Text).flatten)
    ∧ resolveFirstBlocks resolve block = "|A".toList
    ∧ firstBlockKeys resolve block = (["b", "a"] : List Text) := by
  intro resolve line block
  obtain ⟨⟨s, hs, -, hsections, hkeys⟩, -, -⟩ := resolveBlocks_leftmost resolve line
  refine ⟨⟨s, hs, hkeys.symm.trans ?_, hsections.symm.trans ?_⟩, ?_, ?_⟩
  · decide +kernel
  · decide +kernel
  · decide +kernel
  · decide +kernel

end Gazetteer.Address.Template
