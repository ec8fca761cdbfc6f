/-
# Gazetteer.Proofs.Address.Meaning -- what a line means, part by part

A line that is put together from parts has a meaning that reads the parts one by one: plain text
means itself, a substitution its value, a first-block the first alternative that renders to
something, a section its body or nothing. Rendering knows nothing of parts. It scans the text of the
line three times, and each scan reads what the one before has left, braces and all. Still the two
agree on every well-formed line.

The proof follows the scans. The first turns a line into one without first-blocks (`Part.settle`),
the second into a list of atoms (`Part.atoms`), and the third reads the atoms. What a first-block
leaves is plain text from there on, so a value that it shows must hold no opening brace. Closing
braces do no harm.
-/
import Gazetteer.Address.Line
import Gazetteer.Proofs.Address.Tags

namespace Gazetteer.Address

open Template (IsKey Resolver shown tag StartsSigned StartsBraced firstOpen firstClose)
open Text (Passes mark)

/-! ## Well-formed lines -/

/-- Plain text holds no brace, and a value has a key. -/
def Atom.WellFormed : Atom → Prop
  | .text t => '{' ∉ t ∧ '}' ∉ t
  | .value _ key => IsKey key

/-- Plain text holds no bar. -/
def Atom.BarFree : Atom → Prop
  | .text t => '|' ∉ t
  | .value _ _ => True

/-- All atoms are well formed, and those of an alternative hold no bar. -/
def Piece.WellFormed : Piece → Prop
  | .atom a => a.WellFormed
  | .first alternatives => ∀ atoms ∈ alternatives, ∀ a ∈ atoms, a.WellFormed ∧ a.BarFree

/-- All pieces are well formed, and the key of a section is not the word of a first-block. -/
def Part.WellFormed : Part → Prop
  | .piece p => p.WellFormed
  | .section key _ body => IsKey key ∧ key ≠ "first".toList ∧ ∀ p ∈ body, p.WellFormed

/-- All parts are well formed. -/
def Line.WellFormed (line : Line) : Prop := ∀ p ∈ line, p.WellFormed

instance : DecidablePred Atom.WellFormed
  | .text _ => inferInstanceAs (Decidable (_ ∧ _))
  | .value _ key => inferInstanceAs (Decidable (IsKey key))

instance : DecidablePred Atom.BarFree
  | .text _ => inferInstanceAs (Decidable (¬ _))
  | .value _ _ => inferInstanceAs (Decidable True)

instance : DecidablePred Piece.WellFormed
  | .atom a => inferInstanceAs (Decidable a.WellFormed)
  | .first alternatives =>
    inferInstanceAs (Decidable (∀ atoms ∈ alternatives, ∀ a ∈ atoms, a.WellFormed ∧ a.BarFree))

instance : DecidablePred Part.WellFormed
  | .piece p => inferInstanceAs (Decidable p.WellFormed)
  | .section key _ body =>
    inferInstanceAs (Decidable (IsKey key ∧ key ≠ "first".toList ∧ ∀ p ∈ body, p.WellFormed))

instance : DecidablePred Line.WellFormed := fun line =>
  inferInstanceAs (Decidable (∀ p ∈ line, p.WellFormed))

/-! ## Keys inside first-blocks -/

/-- The key of an atom, if it is a value. -/
def Atom.key? : Atom → Option Text
  | .text _ => none
  | .value _ key => some key

/-- The keys that stand in a first-block. -/
def Piece.firstKeys : Piece → List Text
  | .atom _ => []
  | .first alternatives => alternatives.flatten.filterMap Atom.key?

/-- The keys that stand in first-blocks of a part. -/
def Part.firstKeys : Part → List Text
  | .piece p => p.firstKeys
  | .section _ _ body => body.flatMap Piece.firstKeys

/-- The keys that stand in first-blocks of a line. -/
def Line.firstKeys (line : Line) : List Text := line.flatMap Part.firstKeys

/-! ## Meanings -/

variable (resolve : Resolver)

/-- Plain text means itself, a value the trimmed value of its key. -/
def Atom.meaning : Atom → Text
  | .text t => t
  | .value _ key => shown resolve key

/-- What the atoms of an alternative mean, trimmed. -/
def alternativeMeaning (atoms : List Atom) : Text :=
  Text.trim (atoms.flatMap (Atom.meaning resolve))

/-- A first-block means the first of its alternatives that means something, or nothing. -/
def Piece.meaning : Piece → Text
  | .atom a => a.meaning resolve
  | .first alternatives =>
    ((alternatives.map (alternativeMeaning resolve)).find? (fun t => !t.isEmpty)).getD []

/-- Whether the body of a section stands. -/
def stands (key : Text) (inverted : Bool) : Bool :=
  if inverted then (shown resolve key).isEmpty else !(shown resolve key).isEmpty

/-- A section means what its body means, if it stands, or nothing. -/
def Part.meaning : Part → Text
  | .piece p => p.meaning resolve
  | .section key inverted body =>
    if stands resolve key inverted then body.flatMap (Piece.meaning resolve) else []

/-- A line means what its parts mean, one after the other. -/
def Line.meaning (line : Line) : Text := line.flatMap (Part.meaning resolve)

/-! ## Between the scans -/

/-- An atom as a later scan may meet it: its plain text holds no opening brace. -/
def Atom.Settled : Atom → Prop
  | .text t => '{' ∉ t
  | .value _ key => IsKey key

/-- What the first scan makes of a piece. -/
def Piece.settle : Piece → Atom
  | .atom a => a
  | .first alternatives => .text (Piece.meaning resolve (.first alternatives))

/-- What the first scan makes of a part: first-blocks are plain text. -/
def Part.settle : Part → Part
  | .piece p => .piece (.atom (p.settle resolve))
  | .section key inverted body =>
    .section key inverted (body.map fun p => .atom (p.settle resolve))

/-- What the first two scans make of a part: a section is its body or nothing. -/
def Part.atoms : Part → List Atom
  | .piece p => [p.settle resolve]
  | .section key inverted body =>
    if stands resolve key inverted then body.map (Piece.settle resolve) else []

variable {resolve}

theorem Atom.WellFormed.settled {a : Atom} (h : a.WellFormed) : a.Settled := by
  cases a with
  | text t => exact h.1
  | value triple key => exact h

theorem passes_tag {α : Type} {form : Text.Form α} (hform : StartsSigned form) {key : Text}
    (hkey : IsKey key) : Passes form (tag key) := by
  obtain ⟨c, k, rfl⟩ := List.exists_cons_of_ne_nil hkey.1
  have hword : Template.isWordChar c = true := hkey.2 c (by simp)
  have hne : ∀ d, Template.isWordChar d = false → d ≠ c := by
    intro d hd heq
    rw [heq, hword] at hd
    exact absurd hd (by simp)
  have hrest : '{' ∉ c :: k ++ Template.closing := by
    have hmem : '{' ∉ c :: k := hkey.notMem (by decide)
    rw [List.mem_append, not_or]
    exact ⟨hmem, by decide⟩
  refine .cons ?_ (.cons ?_ (hform.startsBraced.passes hrest))
  -- Behind the two braces stands a character of the key, and no sign is one.
  · intro t
    apply hform
    intro sign hsign hprefix
    have hsecond := (List.cons_prefix_cons.mp hprefix).2
    have hthird := (List.cons_prefix_cons.mp hsecond).2
    have hc : sign = c := (List.cons_prefix_cons.mp hthird).1
    have hsigns : ∀ d ∈ ['#', '^', '/'], Template.isWordChar d = false := by decide
    exact hne sign (hsigns sign hsign) hc
  · intro t
    apply hform
    intro sign _ hprefix
    have hsecond := (List.cons_prefix_cons.mp hprefix).2
    exact hne '{' (by decide) (List.cons_prefix_cons.mp hsecond).1

/-- Only the scan for substitutions sees anything in an atom. -/
theorem Atom.Settled.passes {α : Type} {form : Text.Form α} (hform : StartsSigned form) {a : Atom}
    (h : a.Settled) : Passes form a.written := by
  cases a with
  | text t => exact hform.startsBraced.passes h
  | value triple key =>
    have htag : Passes form (tag key) := passes_tag hform h
    cases triple with
    | false => exact htag
    | true =>
      have hclose : Passes form ['}'] := hform.startsBraced.passes (by decide)
      refine .append (.cons ?_ htag) hclose
      -- Behind the first two of three braces stands the third.
      intro t
      apply hform
      intro sign hsign hprefix
      have hsecond := (List.cons_prefix_cons.mp hprefix).2
      have hthird := (List.cons_prefix_cons.mp hsecond).2
      have hbrace : sign = '{' := (List.cons_prefix_cons.mp hthird).1
      have hsigns : '{' ∉ ['#', '^', '/'] := by decide
      exact hsigns (hbrace ▸ hsign)

/-! ## The third scan -/

theorem substitute_atom {a : Atom} (h : a.Settled) (t : Text) :
    Template.substitute resolve (a.written ++ t)
      = a.meaning resolve ++ Template.substitute resolve t := by
  cases a with
  | text s => exact (Template.startsBraced_substitution.passes h).replaceWith_append t
  | value triple key =>
    cases triple with
    | false =>
      have hne : tag key ≠ [] := by simp [tag, Template.opening]
      exact Text.replaceWith_found hne (Template.substitution?_double h t)
    | true =>
      have hne : '{' :: tag key ++ ['}'] ≠ [] := by simp
      exact Text.replaceWith_found hne (Template.substitution?_triple h t)

theorem substitute_atoms {atoms : List Atom} (h : ∀ a ∈ atoms, a.Settled) :
    Template.substitute resolve (atoms.flatMap Atom.written)
      = atoms.flatMap (Atom.meaning resolve) :=
  Text.flatMap_whole rfl fun a ha t => substitute_atom (h a ha) t

/-! ## The first scan -/

/-- The text between the tags of a first-block. -/
def firstBody (alternatives : List (List Atom)) : Text :=
  Text.joined "||" (alternatives.map (·.flatMap Atom.written))

theorem written_first (alternatives : List (List Atom)) :
    (Piece.first alternatives).written = firstOpen ++ (firstBody alternatives ++ firstClose) :=
  List.append_assoc _ _ _

theorem chooseFirst_eq (alternatives : List Text) :
    Template.chooseFirst resolve alternatives
      = ((alternatives.map (Template.renderAlternative resolve)).find? (fun t => !t.isEmpty)).getD []
      := by
  induction alternatives with
  | nil => rfl
  | cons t rest ih =>
    rw [Template.chooseFirst, List.map_cons, List.find?_cons, ih]
    cases (Template.renderAlternative resolve t).isEmpty <;> rfl

/-- The bars between alternatives are found again. -/
theorem alternatives_written {alternatives : List (List Atom)} (hne : alternatives ≠ [])
    (h : ∀ atoms ∈ alternatives, ∀ a ∈ atoms, a.WellFormed ∧ a.BarFree) :
    Template.alternatives (firstBody alternatives)
      = alternatives.map (fun atoms => Text.trim (atoms.flatMap Atom.written)) := by
  have hbar : ∀ c t, c ≠ '|' → mark "||" (c :: t) = none := by
    intro c t hc
    apply Text.mark_eq_none
    exact fun hprefix => hc (List.cons_prefix_cons.mp hprefix).1.symm
  have hatom : ∀ a : Atom, a.WellFormed → a.BarFree → '|' ∉ a.written := by
    intro a hwell hfree
    cases a with
    | text t => exact hfree
    | value triple key =>
      have hmem : '|' ∉ key := IsKey.notMem hwell (by decide)
      cases triple <;> simp [Atom.written, tag, Template.opening, Template.closing, hmem]
  have hparts : ∀ part ∈ alternatives.map (·.flatMap Atom.written), Passes (mark "||") part := by
    intro part hpart
    obtain ⟨atoms, hatoms, rfl⟩ := List.mem_map.mp hpart
    refine Passes.flatMap fun a ha => Text.passes_of_forall fun c hc t => hbar c t ?_
    obtain ⟨hwell, hfree⟩ := h atoms hatoms a ha
    exact fun heq => hatom a hwell hfree (heq ▸ hc)
  rw [Template.alternatives, firstBody, Text.splitOn_joined (by decide) (by simpa using hne) hparts,
    List.map_map]
  rfl

/-- The alternative that is taken is the one that the meaning takes. -/
theorem chooseFirst_written {alternatives : List (List Atom)}
    (h : ∀ atoms ∈ alternatives, ∀ a ∈ atoms, a.WellFormed ∧ a.BarFree) :
    Template.chooseFirst resolve (Template.alternatives (firstBody alternatives))
      = Piece.meaning resolve (.first alternatives) := by
  by_cases hne : alternatives = []
  · subst hne
    rfl
  -- The choice runs over the trimmed texts, the meaning over the meanings, in the same order.
  · have hmeaning : ∀ atoms ∈ alternatives,
        Template.renderAlternative resolve (Text.trim (atoms.flatMap Atom.written))
          = alternativeMeaning resolve atoms := by
      intro atoms hatoms
      have hsettled : ∀ a ∈ atoms, a.Settled := fun a ha => (h atoms hatoms a ha).1.settled
      rw [Template.renderAlternative_trim, substitute_atoms hsettled, alternativeMeaning]
    have hmap : (alternatives.map fun atoms => Text.trim (atoms.flatMap Atom.written)).map
        (Template.renderAlternative resolve) = alternatives.map (alternativeMeaning resolve) := by
      rw [List.map_map]
      exact List.map_congr_left hmeaning
    rw [alternatives_written hne h, chooseFirst_eq, hmap, Piece.meaning]

/-- No closing tag stands inside a first-block. -/
theorem passes_firstClose {alternatives : List (List Atom)}
    (h : ∀ atoms ∈ alternatives, ∀ a ∈ atoms, a.WellFormed ∧ a.BarFree) :
    Passes (mark firstClose) (firstBody alternatives) := by
  have hsigned : StartsSigned (mark firstClose) := by
    rw [Template.firstClose_eq]
    exact Template.startsSigned_mark (by simp)
  refine Passes.joined (hsigned.startsBraced.passes (by decide)) ?_
  intro part hpart
  obtain ⟨atoms, hatoms, rfl⟩ := List.mem_map.mp hpart
  exact Passes.flatMap fun a ha => (h atoms hatoms a ha).1.settled.passes hsigned

/-- A first-block is seen where it is written. -/
theorem firstBlock?_written {alternatives : List (List Atom)}
    (h : ∀ atoms ∈ alternatives, ∀ a ∈ atoms, a.WellFormed ∧ a.BarFree) (t : Text) :
    Template.firstBlock? ((Piece.first alternatives).written ++ t)
      = some (Template.alternatives (firstBody alternatives),
        (Piece.first alternatives).written.length) := by
  rw [written_first, List.append_assoc, List.append_assoc]
  exact Template.firstBlock?_append (passes_firstClose h) t

theorem written_first_ne_nil (alternatives : List (List Atom)) :
    (Piece.first alternatives).written ≠ [] := by
  simp [written_first, firstOpen, tag, Template.opening]

theorem resolveFirstBlocks_piece {p : Piece} (h : p.WellFormed) (t : Text) :
    Template.resolveFirstBlocks resolve (p.written ++ t)
      = (p.settle resolve).written ++ Template.resolveFirstBlocks resolve t := by
  cases p with
  | atom a =>
    exact (h.settled.passes Template.startsSigned_firstBlock).replaceWith_append t
  | first alternatives =>
    rw [Template.resolveFirstBlocks,
      Text.replaceWith_found (written_first_ne_nil alternatives) (firstBlock?_written h t),
      chooseFirst_written h]
    rfl

theorem resolveFirstBlocks_pieces {ps : List Piece} (h : ∀ p ∈ ps, p.WellFormed) (t : Text) :
    Template.resolveFirstBlocks resolve (ps.flatMap Piece.written ++ t)
      = ps.flatMap (fun p => (p.settle resolve).written) ++ Template.resolveFirstBlocks resolve t :=
  Text.flatMap_parts (fun p hp => resolveFirstBlocks_piece (h p hp)) t

theorem resolveFirstBlocks_part {p : Part} (h : p.WellFormed) (t : Text) :
    Template.resolveFirstBlocks resolve (p.written ++ t)
      = (p.settle resolve).written ++ Template.resolveFirstBlocks resolve t := by
  cases p with
  | piece p => exact resolveFirstBlocks_piece h t
  | «section» key inverted body =>
    obtain ⟨hkey, hfirst, hbody⟩ := h
    have hsign : (if inverted then '^' else '#') ≠ '{' := by
      cases inverted <;> decide
    have hopen := Template.passes_firstBlock_tag hkey hfirst hsign
    have hclose : Passes Template.firstBlock? (tag ('/' :: key)) :=
      Template.passes_firstBlock_tag hkey hfirst (by decide)
    have hsettled : (body.map fun p => Piece.atom (p.settle resolve)).flatMap Piece.written
        = body.flatMap (fun p => (p.settle resolve).written) := List.flatMap_map ..
    rw [Part.settle, Part.written, Part.written, hsettled, Template.resolveFirstBlocks]
    simp only [List.append_assoc, hopen.replaceWith_append]
    rw [← Template.resolveFirstBlocks, resolveFirstBlocks_pieces hbody,
      Template.resolveFirstBlocks, hclose.replaceWith_append]
    rfl

/-- The first scan settles every part. -/
theorem resolveFirstBlocks_written {line : Line} (h : Line.WellFormed line) :
    Template.resolveFirstBlocks resolve (Line.written line)
      = Line.written (line.map (Part.settle resolve)) := by
  rw [Line.written, Line.written, List.flatMap_map]
  exact Text.flatMap_whole rfl fun p hp t => resolveFirstBlocks_part (h p hp) t

/-! ## The second scan -/

/-- Every character of what a first-block means is one of what some atom in it means. -/
theorem exists_atom_of_mem_first {c : Char} {alternatives : List (List Atom)}
    (h : c ∈ Piece.meaning resolve (.first alternatives)) :
    ∃ atoms ∈ alternatives, ∃ a ∈ atoms, c ∈ a.meaning resolve := by
  rw [Piece.meaning] at h
  cases hfound : (alternatives.map (alternativeMeaning resolve)).find? (fun t => !t.isEmpty) with
  | none => simp [hfound] at h
  | some t =>
    rw [hfound, Option.getD_some] at h
    obtain ⟨atoms, hatoms, rfl⟩ := List.mem_map.mp (List.mem_of_find?_eq_some hfound)
    exact ⟨atoms, hatoms, List.mem_flatMap.mp ((Text.trim_sublist _).subset h)⟩

/-- What a first-block leaves is plain text to the later scans. -/
theorem Piece.WellFormed.settled {p : Piece} (h : p.WellFormed)
    (hkeys : ∀ key ∈ p.firstKeys, '{' ∉ shown resolve key) : (p.settle resolve).Settled := by
  cases p with
  | atom a => exact Atom.WellFormed.settled h
  | first alternatives =>
    show '{' ∉ Piece.meaning resolve (.first alternatives)
    intro hmem
    obtain ⟨atoms, hatoms, a, ha, hmem⟩ := exists_atom_of_mem_first hmem
    cases a with
    | text t => exact (h atoms hatoms _ ha).1.1 hmem
    | value triple key =>
      refine hkeys key ?_ hmem
      exact List.mem_filterMap.mpr ⟨_, List.mem_flatten.mpr ⟨atoms, hatoms, ha⟩, rfl⟩

theorem expand_eq (key body : Text) (inverted : Bool) :
    Template.Section.expand resolve ⟨key, inverted, body⟩
      = if stands resolve key inverted then body else [] := by
  rw [Template.Section.expand, stands]
  cases inverted <;> cases (shown resolve key).isEmpty <;> rfl

theorem written_section_ne_nil (key : Text) (inverted : Bool) (body : List Piece) :
    (Part.settle resolve (.section key inverted body)).written ≠ [] := by
  simp [Part.settle, Part.written, tag, Template.opening]

/-- A section is seen where it is written, once the first scan has settled its body. -/
theorem section?_written {key : Text} {inverted : Bool} {body : List Piece}
    (h : (Part.section key inverted body).WellFormed)
    (hkeys : ∀ k ∈ (Part.section key inverted body).firstKeys, '{' ∉ shown resolve k) (t : Text) :
    Template.section? ((Part.settle resolve (.section key inverted body)).written ++ t)
      = some (⟨key, inverted, (body.map (Piece.settle resolve)).flatMap Atom.written⟩,
        (Part.settle resolve (.section key inverted body)).written.length) := by
  obtain ⟨hkey, -, hbody⟩ := h
  let sign := if inverted then '^' else '#'
  let bodyText := (body.map (Piece.settle resolve)).flatMap Atom.written
  have hsign : Template.sectionSign? sign = some inverted := by
    cases inverted <;> rfl
  -- No closing tag can start in the body, since its first-blocks are plain text by now.
  have hsettled : ∀ a ∈ body.map (Piece.settle resolve), a.Settled := by
    intro a ha
    obtain ⟨p, hp, rfl⟩ := List.mem_map.mp ha
    exact (hbody p hp).settled fun k hk => hkeys k (List.mem_flatMap.mpr ⟨p, hp, hk⟩)
  have hbodyText : Passes (mark (tag ('/' :: key))) bodyText :=
    Passes.flatMap fun a ha => (hsettled a ha).passes (Template.startsSigned_mark (by simp))
  have hwritten : (Part.settle resolve (.section key inverted body)).written
      = tag (sign :: key) ++ (bodyText ++ tag ('/' :: key)) := by
    simp only [Part.settle, Part.written, List.flatMap_map, List.append_assoc, bodyText, sign]
    rfl
  rw [hwritten, List.append_assoc, List.append_assoc]
  exact Template.section?_append hkey hsign hbodyText t

theorem resolveSections_part {p : Part} (h : p.WellFormed)
    (hkeys : ∀ key ∈ p.firstKeys, '{' ∉ shown resolve key) (t : Text) :
    Template.resolveSections resolve ((p.settle resolve).written ++ t)
      = (p.atoms resolve).flatMap Atom.written ++ Template.resolveSections resolve t := by
  cases p with
  | piece p =>
    have hsettled : (p.settle resolve).Settled := Piece.WellFormed.settled h hkeys
    have hpass := (hsettled.passes Template.startsSigned_section).replaceWith_append
      (f := Template.Section.expand resolve) t
    simpa [Part.settle, Part.written, Piece.written, Part.atoms, Template.resolveSections]
      using hpass
  | «section» key inverted body =>
    rw [Template.resolveSections, Text.replaceWith_found (written_section_ne_nil key inverted body)
      (section?_written h hkeys t), expand_eq, Part.atoms]
    split <;> rfl

/-- The second scan opens every section. -/
theorem resolveSections_written {line : Line} (h : Line.WellFormed line)
    (hkeys : ∀ key ∈ Line.firstKeys line, '{' ∉ shown resolve key) :
    Template.resolveSections resolve (Line.written (line.map (Part.settle resolve)))
      = (line.flatMap (Part.atoms resolve)).flatMap Atom.written := by
  have hpart : ∀ p ∈ line, ∀ key ∈ p.firstKeys, '{' ∉ shown resolve key :=
    fun p hp key hkey => hkeys key (List.mem_flatMap.mpr ⟨p, hp, hkey⟩)
  rw [Line.written, List.flatMap_map, List.flatMap_assoc]
  exact Text.flatMap_whole rfl fun p hp t => resolveSections_part (h p hp) (hpart p hp) t

/-! ## The three scans together -/

theorem meaning_settle (p : Piece) : (p.settle resolve).meaning resolve = p.meaning resolve := by
  cases p <;> rfl

/-- The atoms that are left of a part mean what the part means. -/
theorem flatMap_meaning_atoms (p : Part) :
    (p.atoms resolve).flatMap (Atom.meaning resolve) = p.meaning resolve := by
  cases p with
  | piece p => simp [Part.atoms, Part.meaning, meaning_settle]
  | «section» key inverted body =>
    rw [Part.atoms, Part.meaning]
    split
    · simp only [List.flatMap_map, meaning_settle]
    · rfl

theorem Part.WellFormed.atoms_settled {p : Part} (h : p.WellFormed)
    (hkeys : ∀ key ∈ p.firstKeys, '{' ∉ shown resolve key) :
    ∀ a ∈ p.atoms resolve, a.Settled := by
  cases p with
  | piece p =>
    intro a ha
    rw [List.mem_singleton.mp ha]
    exact Piece.WellFormed.settled h hkeys
  | «section» key inverted body =>
    intro a ha
    rw [Part.atoms] at ha
    split at ha
    · obtain ⟨p, hp, rfl⟩ := List.mem_map.mp ha
      exact (h.2.2 p hp).settled fun k hk => hkeys k (List.mem_flatMap.mpr ⟨p, hp, hk⟩)
    · exact absurd ha (by simp)

/-- The three scans of a well-formed line come to its meaning. -/
theorem substitute_written {line : Line} (h : Line.WellFormed line)
    (hkeys : ∀ key ∈ Line.firstKeys line, '{' ∉ shown resolve key) :
    Template.substitute resolve (Template.resolveBlocks resolve (Line.written line))
      = Line.meaning resolve line := by
  have hsettled : ∀ a ∈ line.flatMap (Part.atoms resolve), a.Settled := by
    intro a ha
    obtain ⟨p, hp, ha⟩ := List.mem_flatMap.mp ha
    exact (h p hp).atoms_settled (fun k hk => hkeys k (List.mem_flatMap.mpr ⟨p, hp, hk⟩)) a ha
  have hmeaning : (line.flatMap (Part.atoms resolve)).flatMap (Atom.meaning resolve)
      = Line.meaning resolve line := by
    rw [List.flatMap_assoc, Line.meaning]
    simp only [flatMap_meaning_atoms]
  rw [Template.resolveBlocks, resolveFirstBlocks_written h, resolveSections_written h hkeys,
    substitute_atoms hsettled, hmeaning]

/-- **A well-formed line renders to its meaning**, tidied. Three scans of its text, each reading what
the one before has left, come to the same as one reading of its parts, for every resolver whose
values inside first-blocks hold no opening brace. -/
theorem renderLine_written (resolve : Resolver) (line : Line) (h : Line.WellFormed line)
    (hkeys : ∀ key ∈ Line.firstKeys line, '{' ∉ shown resolve key) :
    Template.renderLine resolve (Line.written line)
      = Template.cleanUp (Line.meaning resolve line) := by
  rw [Template.renderLine, substitute_written h hkeys]

/-- An address line with a part of every kind, under values that leave one section and one
alternative empty. -/
theorem renderLine_written_everyPart :
    let resolve : Resolver := fun key =>
      if key = "city".toList then " Bern ".toList
      else if key = "code".toList then "3000\x7d".toList else []
    let line : Line :=
      [.plain "CH-", .piece (.first [[.value true "box"], [.text " ", .value false "code"]]),
        .section "city" false [.atom (.text " "), .atom (.value true "city")],
        .section "box" true [.atom (.text "!")], .section "box" false [.atom (.text "?")]]
    Line.WellFormed line
      ∧ (∀ key ∈ Line.firstKeys line, '{' ∉ shown resolve key)
      ∧ Template.renderLine resolve (Line.written line) = "CH-3000\x7d Bern!".toList := by
  intro resolve line
  have hform : Line.WellFormed line := by decide
  have hkeys : ∀ key ∈ Line.firstKeys line, '{' ∉ shown resolve key := by decide
  refine ⟨hform, hkeys, ?_⟩
  rw [renderLine_written resolve line hform hkeys]
  decide

end Gazetteer.Address
