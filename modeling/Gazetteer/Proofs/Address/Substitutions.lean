/-
# Gazetteer.Proofs.Address.Substitutions -- substituting is the leftmost global replacement

The last stage of rendering looks for keys between two or three braces, in a text that may hold
anything: braces in a row, tokens that are never closed, letters outside ASCII inside a name, tags
of the other stages. It takes the text apart at the tokens that start in it, from left to right, and
since at no place two of them start, there is only one way to do so. What stands between the tokens
is copied, and each token gives way to the value of its key.

A resolver is a function here, so nobody sees it being asked. To say in which order the keys are
asked for, rendering is written down once more with a resolver that notes every key behind those it
was asked for before. It gives the same texts, and its notes are the keys that the scans list.
-/
import Gazetteer.Proofs.Address.Leftmost

namespace Gazetteer.Address.Template

open Text (Split)

/-! ## Tokens -/

/-- A key between three or two braces on each side. -/
structure Substitution where
  triple : Bool
  key : Text

/-- The text of a substitution. -/
def Substitution.written (v : Substitution) : Text :=
  if v.triple then '{' :: tag v.key ++ ['}'] else tag v.key

/-- What stands between the braces is a key. -/
def Substitution.Valid (v : Substitution) : Prop := IsKey v.key

/-- The text starts with a substitution. -/
def StartsSubstitution (t : Text) : Prop := ∃ v : Substitution, v.Valid ∧ v.written <+: t

theorem substitution?_written {v : Substitution} (hv : v.Valid) (t : Text) :
    substitution? (v.written ++ t) = some (v.key, v.written.length) := by
  obtain ⟨triple, key⟩ := v
  cases triple with
  | false => exact substitution?_double hv t
  | true => exact substitution?_triple hv t

/-- What is seen as a substitution is one, with something behind. -/
theorem of_substitution? {t key : Text} {size : Nat} (h : substitution? t = some (key, size)) :
    StartsSubstitution t := by
  rw [substitution?, Option.orElse_eq_orElse, Option.orElse_eq_or, Option.or_eq_some_iff] at h
  rcases h with h | ⟨-, h⟩
  · obtain ⟨after, hkey, rfl, -⟩ := of_braced h
    refine ⟨⟨true, key⟩, hkey, after, ?_⟩
    simp [Substitution.written, tag, opening, closing, List.replicate_succ]
  · obtain ⟨after, hkey, rfl, -⟩ := of_braced h
    refine ⟨⟨false, key⟩, hkey, after, ?_⟩
    simp [Substitution.written, tag, opening, closing, List.replicate_succ]

theorem length_written (v : Substitution) :
    v.written.length = v.key.length + if v.triple then 6 else 4 := by
  obtain ⟨triple, key⟩ := v
  cases triple with
  | false => simp [Substitution.written, tag, opening, closing]
  | true => simp [Substitution.written, tag, opening, closing]

/-- The scan sees a substitution wherever one starts. -/
theorem sees_substitution :
    Text.Form.Sees substitution? Substitution.written Substitution.Valid StartsSubstitution
      Substitution.key where
  written_ne_nil := by
    intro v hnil
    have hlength := length_written v
    rw [hnil, List.length_nil] at hlength
    split at hlength <;> omega
  injective := by
    rintro ⟨triple, key⟩ ⟨triple', key'⟩ hv hv' heq
    have hfound := substitution?_written hv []
    rw [heq, substitution?_written hv' [], Option.some.injEq, Prod.mk.injEq] at hfound
    obtain ⟨rfl, -⟩ := hfound
    -- Of the same key, the longer of two tokens has three braces.
    have hlength := congrArg List.length heq
    rw [length_written, length_written] at hlength
    cases triple <;> cases triple' <;> simp at hlength ⊢
  found := substitution?_written
  starts := by
    intro t h
    obtain ⟨⟨key, size⟩, hfound⟩ := Option.ne_none_iff_exists'.mp h
    exact of_substitution? hfound
  exists_written := by
    rintro t ⟨v, hv, rest, rfl⟩
    exact ⟨v, rest, hv, rfl⟩

/-! ## Rendering with notes

Each stage is written as it is in the renderer, with `ask` where that shows a value. -/

/-- Something that asks for keys. It is given the keys that were asked for before it, and puts its
own behind them. -/
abbrev Asking (α : Type) := StateM (List Text) α

variable (resolve : Resolver)

/-- Asks for a key, and notes it. -/
def ask (key : Text) : Asking Text := fun asked => (shown resolve key, asked ++ [key])

/-- Writes pieces one behind the other. -/
def writePieces {α : Type} (write : α → Asking Text) : List (Text.Piece α) → Asking Text
  | [] => pure []
  | .plain c :: rest => do
    let behind ← writePieces write rest
    pure (c :: behind)
  | .found what :: rest => do
    let written ← write what
    let behind ← writePieces write rest
    pure (written ++ behind)

def askSubstitute (t : Text) : Asking Text :=
  writePieces (ask resolve) (Text.pieces substitution? t)

def askAlternative (alternative : Text) : Asking Text := do
  let rendered ← askSubstitute resolve alternative
  pure (Text.trim rendered)

def askFirst : List Text → Asking Text
  | [] => pure []
  | alternative :: rest => do
    let rendered ← askAlternative resolve alternative
    if rendered.isEmpty then askFirst rest else pure rendered

def askFirstBlocks (t : Text) : Asking Text :=
  writePieces (askFirst resolve) (Text.pieces firstBlock? t)

def askSection (s : Section) : Asking Text := do
  let value ← ask resolve s.key
  pure (if value.isEmpty = s.inverted then s.body else [])

def askSections (t : Text) : Asking Text :=
  writePieces (askSection resolve) (Text.pieces section? t)

/-- The first two stages. -/
def askBlocks (line : Text) : Asking Text := do
  let t ← askFirstBlocks resolve line
  askSections resolve t

/-- All of the three stages. -/
def askLine (line : Text) : Asking Text := do
  let t ← askBlocks resolve line
  let rendered ← askSubstitute resolve t
  pure (cleanUp rendered)

/-! ## The notes are the keys -/

/-- It gives the result, and asks for the keys in this order and for nothing else. -/
def Notes {α : Type} (act : Asking α) (result : α) (keys : List Text) : Prop :=
  ∀ asked, act asked = (result, asked ++ keys)

namespace Notes

variable {α β : Type} {act : Asking α} {result : α} {keys : List Text}

theorem pure (x : α) : Notes (Pure.pure x) x [] := by
  intro asked
  rw [List.append_nil]
  rfl

theorem bind {next : α → Asking β} {x : β} {more : List Text} (h : Notes act result keys)
    (hnext : Notes (next result) x more) : Notes (act >>= next) x (keys ++ more) := by
  intro asked
  show next (act asked).1 (act asked).2 = _
  rw [h asked, hnext, List.append_assoc]

/-- What is done with the result asks for nothing. -/
theorem map (h : Notes act result keys) (f : α → β) :
    Notes (act >>= fun x => Pure.pure (f x)) (f result) keys := by
  intro asked
  show (f (act asked).1, (act asked).2) = _
  rw [h asked]

end Notes

variable {resolve}

theorem notes_ask (key : Text) : Notes (ask resolve key) (shown resolve key) [key] :=
  fun _ => rfl

/-- Pieces are asked for one behind the other. -/
theorem notes_writePieces {α : Type} {write : α → Asking Text} {f : α → Text}
    {keys : α → List Text} (h : ∀ what, Notes (write what) (f what) (keys what))
    (pieces : List (Text.Piece α)) :
    Notes (writePieces write pieces) (pieces.flatMap (Text.Piece.write f))
      ((pieces.filterMap Text.Piece.found?).flatMap keys) := by
  induction pieces with
  | nil => exact .pure []
  | cons piece rest ih =>
    cases piece with
    | plain c => exact ih.map _
    | found what => exact (h what).bind (ih.map _)

theorem notes_substitute (t : Text) :
    Notes (askSubstitute resolve t) (substitute resolve t) (substitutionKeys t) := by
  have hask : ∀ key, Notes (ask resolve key) (shown resolve key) [key] := notes_ask
  have hpieces := notes_writePieces hask (Text.pieces substitution? t)
  rwa [List.flatMap_singleton'] at hpieces

theorem notes_first (alternatives : List Text) :
    Notes (askFirst resolve alternatives) (chooseFirst resolve alternatives)
      (chosenKeys resolve alternatives) := by
  induction alternatives with
  | nil => exact .pure []
  | cons alternative rest ih =>
    have hrendered : Notes (askAlternative resolve alternative)
        (renderAlternative resolve alternative) (substitutionKeys alternative) :=
      (notes_substitute alternative).map _
    refine hrendered.bind ?_
    dsimp only [chooseFirst]
    split
    · exact ih
    · exact .pure _

theorem notes_firstBlocks (t : Text) :
    Notes (askFirstBlocks resolve t) (resolveFirstBlocks resolve t)
      (firstBlockKeys resolve t) :=
  notes_writePieces notes_first _

theorem notes_sections (t : Text) :
    Notes (askSections resolve t) (resolveSections resolve t) (sectionKeys t) := by
  have hsection : ∀ s : Section,
      Notes (askSection resolve s) (s.expand resolve) [s.key] :=
    fun s => (notes_ask s.key).map _
  have hpieces := notes_writePieces hsection (Text.pieces section? t)
  rwa [← List.map_eq_flatMap] at hpieces

theorem notes_blocks (line : Text) :
    Notes (askBlocks resolve line) (resolveBlocks resolve line)
      (firstBlockKeys resolve line ++ sectionKeys (resolveFirstBlocks resolve line)) :=
  (notes_firstBlocks line).bind (notes_sections _)

theorem notes_line (line : Text) :
    Notes (askLine resolve line) (renderLine resolve line) (askedKeys resolve line) :=
  (notes_blocks line).bind ((notes_substitute _).map _)

/-! ## The stage -/

/-- **Substitution is the leftmost global replacement.** There is exactly one way to take a text
apart at its substitutions so that none starts in what stands between them. Substituting copies what
stands between them, puts the trimmed value of its key in the place of each, and asks for their keys
in order, which are the keys that the text is said to substitute. And what rendering a line asks for
after its first two stages are the keys that the text they leave substitutes. -/
theorem substitute_leftmost (resolve : Resolver) :
    (∀ t, ∃ s : Split Substitution,
      s.Leftmost Substitution.written Substitution.Valid StartsSubstitution t
      ∧ (∀ s' : Split Substitution,
        s'.Leftmost Substitution.written Substitution.Valid StartsSubstitution t → s' = s)
      ∧ substitute resolve t = s.replaced (fun v => Text.trim (resolve v.key))
      ∧ substitutionKeys t = s.found.map Substitution.key
      ∧ Notes (askSubstitute resolve t) (substitute resolve t)
        (s.found.map Substitution.key))
    ∧ ∀ line, ∃ before,
      Notes (askBlocks resolve line) (resolveBlocks resolve line) before
      ∧ Notes (askLine resolve line) (renderLine resolve line)
        (before ++ substitutionKeys (resolveBlocks resolve line)) := by
  constructor
  · intro t
    obtain ⟨s, hs⟩ := sees_substitution.exists_leftmost t
    have hkeys : substitutionKeys t = s.found.map Substitution.key :=
      sees_substitution.occurrences_eq hs
    refine ⟨s, hs, fun s' hs' => sees_substitution.leftmost_unique hs' hs,
      sees_substitution.replaceWith_eq (shown resolve) hs, hkeys, ?_⟩
    rw [← hkeys]
    exact notes_substitute t
  · intro line
    exact ⟨_, notes_blocks line, notes_line line⟩

/-- Four braces in front of a key, tokens that hold no word or are not closed, and a line that asks
for keys in two stages. -/
theorem substitute_leftmost_braces :
    let resolve : Resolver := fun key => if key = "a".toList then " A " else []
    let text : Text := (["\x7b\x7b", tag "a", "\x7d", tag "é", "\x7b\x7bb\x7d", "\x7b", tag "b",
      tag "#a"] : List Text).flatten
    let line : Text := firstWritten ([tag "b", "||", tag "a"] : List Text).flatten ++ tag "c"
    (∃ s : Split Substitution,
      s.Leftmost Substitution.written Substitution.Valid StartsSubstitution text
      ∧ s.found.map Substitution.key = (["a", "b"] : List Text)
      ∧ s.replaced (fun v => Text.trim (resolve v.key))
        = (["\x7bA", tag "é", "\x7b\x7bb\x7d", "\x7b", tag "#a"] : List Text).flatten)
    ∧ Notes (askLine resolve line) "A" (["b", "a", "c"] : List Text) := by
  intro resolve text line
  obtain ⟨s, hs, -, hreplaced, hkeys, -⟩ := (substitute_leftmost resolve).1 text
  obtain ⟨before, hblocks, hline⟩ := (substitute_leftmost resolve).2 line
  refine ⟨⟨s, hs, hkeys.symm.trans ?_, hreplaced.symm.trans ?_⟩, ?_⟩
  · decide +kernel
  · decide +kernel
  · have hbefore : (["b", "a"] : List Text) = before := congrArg Prod.snd (hblocks [])
    have hrendered : renderLine resolve line = "A" := by decide +kernel
    have hlast : substitutionKeys (resolveBlocks resolve line) = (["c"] : List Text) := by
      decide +kernel
    rwa [hrendered, hlast, ← hbefore] at hline

end Gazetteer.Address.Template
