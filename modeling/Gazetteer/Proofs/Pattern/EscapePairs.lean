/-
# Gazetteer.Proofs.Pattern.EscapePairs -- which letters of a pattern are written out as classes

From left to right a pattern is read as backslashes with the character behind them, other
characters, and at the end perhaps a backslash with nothing behind it. Every text is read in exactly
one way (`Reading.text_eq_iff`), so whether a letter belongs to a backslash depends on all the
backslashes in front of it. Writing out classes replaces the four pairs for digits and word
characters and keeps everything else. The classes hold no backslash, so no character gets behind a
backslash that it did not belong to before: what comes of a text holds none of the four pairs, and
writing out classes again changes nothing.
-/
import Gazetteer.Proofs.Pattern.Expansion

namespace Gazetteer.Pattern

/-! ## Reading a text from left to right -/

/-- A backslash with the character behind it, or another character. -/
inductive Token where
  | pair (c : Char)
  | single (c : Char) (other : c ≠ '\\')

/-- The text of a token. -/
def Token.text : Token → Text
  | .pair c => ['\\', c]
  | .single c _ => [c]

/-- What a text is read as: its tokens, and whether a backslash stands alone at its end. -/
structure Reading where
  tokens : List Token
  lone : Bool

namespace Reading

/-- A reading with a token in front of it. -/
def cons (token : Token) (r : Reading) : Reading := ⟨token :: r.tokens, r.lone⟩

/-- The backslash that stands alone, if there is one. -/
def left (r : Reading) : Text := if r.lone then ['\\'] else []

/-- The text that was read. -/
def text (r : Reading) : Text := r.tokens.flatMap Token.text ++ r.left

/-- Reads a text from left to right. -/
def ofText : Text → Reading
  | [] => ⟨[], false⟩
  | c :: rest =>
    if h : c = '\\' then
      match rest with
      | [] => ⟨[], true⟩
      | d :: rest => (ofText rest).cons (.pair d)
    else (ofText rest).cons (.single c h)

theorem ofText_pair (c : Char) (t : Text) : ofText ('\\' :: c :: t) = (ofText t).cons (.pair c) :=
  rfl

theorem ofText_single {c : Char} (hc : c ≠ '\\') (t : Text) :
    ofText (c :: t) = (ofText t).cons (.single c hc) := by
  cases t <;> exact dif_neg hc

theorem text_cons (token : Token) (r : Reading) : (r.cons token).text = token.text ++ r.text := by
  show (token :: r.tokens).flatMap Token.text ++ r.left = _
  rw [List.flatMap_cons, List.append_assoc, ← text]

/-- Reading loses nothing. -/
theorem text_ofText (t : Text) : (ofText t).text = t := by
  induction t using ofText.induct with
  | case1 => rfl
  | case2 => rfl
  | case3 d rest ih =>
    rw [ofText_pair, text_cons, ih]
    rfl
  | case4 c rest hc ih =>
    rw [ofText_single hc, text_cons, ih]
    rfl

/-- A text is read as the tokens it was put together from. -/
theorem ofText_text (r : Reading) : ofText r.text = r := by
  obtain ⟨tokens, lone⟩ := r
  induction tokens with
  | nil => cases lone <;> rfl
  | cons token tokens ih =>
    show ofText (cons token ⟨tokens, lone⟩).text = cons token ⟨tokens, lone⟩
    rw [text_cons]
    cases token with
    | pair c =>
      show ofText ('\\' :: c :: text ⟨tokens, lone⟩) = _
      rw [ofText_pair, ih]
    | single c hc =>
      show ofText (c :: text ⟨tokens, lone⟩) = _
      rw [ofText_single hc, ih]

/-- There is one way to read a text. -/
theorem text_eq_iff {r : Reading} {t : Text} : r.text = t ↔ r = ofText t := by
  constructor
  · rintro rfl
    exact (ofText_text r).symm
  · rintro rfl
    exact text_ofText t

end Reading

/-! ## The four pairs -/

/-- The letters that are written out behind a backslash, and the classes they are written out as. -/
def letterClasses : List (Char × Text) :=
  [('d', "[0-9]"), ('D', "[^0-9]"), ('w', "[0-9A-Za-z_]"), ('W', "[^0-9A-Za-z_]")]

theorem classText_eq (c : Char) : classText c = (letterClasses.lookup c).getD ['\\', c] := by
  unfold classText
  split
  · rfl
  · rfl
  · rfl
  · rfl
  · rename_i hd hD hw hW
    have hnone : letterClasses.lookup c = none := by
      apply List.lookup_eq_none_iff.mpr
      simpa [letterClasses] using ⟨hd, hD, hw, hW⟩
    rw [hnone]
    rfl

namespace Token

/-- What a token is written out as. -/
def expanded : Token → Text
  | .pair c => (letterClasses.lookup c).getD ['\\', c]
  | .single c _ => [c]

/-- Whether a token is one of the pairs that are written out. -/
def NamesClass (x : Token) : Prop := ∃ entry ∈ letterClasses, x = .pair entry.1

/-- A token that is written out becomes a class, which starts with a bracket and holds no backslash;
every other token is kept. -/
theorem expanded_cases (x : Token) :
    (x.NamesClass ∧ (∃ items, x.expanded = '[' :: items) ∧ '\\' ∉ x.expanded)
      ∨ (¬ x.NamesClass ∧ x.expanded = x.text) := by
  have hclasses : ∀ entry ∈ letterClasses, entry.2.head? = some '[' ∧ '\\' ∉ entry.2 := by decide
  cases x with
  | single c hc =>
    refine .inr ⟨?_, rfl⟩
    rintro ⟨entry, -, hpair⟩
    contradiction
  | pair c =>
    cases hlookup : letterClasses.lookup c with
    | none =>
      have hkept : (pair c).expanded = ['\\', c] := congrArg (Option.getD · _) hlookup
      refine .inr ⟨?_, hkept⟩
      rintro ⟨entry, hentry, hpair⟩
      obtain rfl := Token.pair.inj hpair
      simpa using List.lookup_eq_none_iff.mp hlookup entry hentry
    | some items =>
      have hclass : (pair c).expanded = items := congrArg (Option.getD · _) hlookup
      obtain ⟨front, behind, hentries, -⟩ := List.lookup_eq_some_iff.mp hlookup
      have hentry : (c, items) ∈ letterClasses := by
        rw [hentries]
        exact List.mem_append_right front List.mem_cons_self
      obtain ⟨hhead, hfree⟩ := hclasses _ hentry
      rw [hclass]
      exact .inl ⟨⟨_, hentry, rfl⟩, List.head?_eq_some_iff.mp hhead, hfree⟩

theorem expands (x : Token) : Expands x.text x.expanded := by
  cases x with
  | pair c =>
    show Expands ['\\', c] ((letterClasses.lookup c).getD ['\\', c])
    rw [← classText_eq]
    exact .escape c
  | single c hc => exact .plain (by simpa [text] using Ne.symm hc)

/-- What a token is written out as is not written out further. -/
theorem expands_expanded (x : Token) : Expands x.expanded x.expanded := by
  rcases x.expanded_cases with ⟨-, -, hfree⟩ | ⟨-, hkept⟩
  · exact .plain hfree
  · have h := x.expands
    rwa [hkept] at h ⊢

/-- Tokens are kept exactly if none of them is written out. -/
theorem flatMap_expanded_eq_iff (xs : List Token) :
    xs.flatMap expanded = xs.flatMap text ↔ ∀ x ∈ xs, ¬ x.NamesClass := by
  induction xs with
  | nil => simp
  | cons x xs ih =>
    rw [List.flatMap_cons, List.flatMap_cons, List.forall_mem_cons]
    rcases x.expanded_cases with ⟨hnames, ⟨items, hclass⟩, -⟩ | ⟨hkeeps, hkept⟩
    · -- A class starts with a bracket, the pair it was written for with a backslash.
      refine iff_of_false ?_ (fun h => h.1 hnames)
      obtain ⟨entry, -, rfl⟩ := hnames
      rw [hclass]
      intro h
      exact absurd (List.cons.inj h).1 (by decide)
    · rw [hkept, List.append_cancel_left_eq, ih, and_iff_right hkeeps]

end Token

/-! ## Writing out a text -/

namespace Reading

/-- The text that was read, with its tokens written out. -/
def expanded (r : Reading) : Text := r.tokens.flatMap Token.expanded ++ r.left

/-- No token that was read is written out. -/
def NamesNoClass (r : Reading) : Prop := ∀ x ∈ r.tokens, ¬ x.NamesClass

/-- In front of any text the tokens are written out by themselves. -/
theorem expands_tokens (r : Reading) :
    Expands (r.tokens.flatMap Token.text) (r.tokens.flatMap Token.expanded) :=
  .flatMap fun x _ => x.expands

theorem expandClasses_left (r : Reading) : expandClasses r.left = r.left := by
  unfold left
  split <;> rfl

theorem expandClasses_text (r : Reading) : expandClasses r.text = r.expanded := by
  rw [text, r.expands_tokens, expandClasses_left, expanded]

/-- What is written out is not written out further. -/
theorem expandClasses_expanded (r : Reading) : expandClasses r.expanded = r.expanded := by
  have htokens : Expands (r.tokens.flatMap Token.expanded) (r.tokens.flatMap Token.expanded) :=
    .flatMap fun x _ => x.expands_expanded
  rw [expanded, htokens, expandClasses_left]

theorem expanded_eq_text_iff (r : Reading) : r.expanded = r.text ↔ r.NamesNoClass := by
  rw [expanded, text, List.append_cancel_right_eq, Token.flatMap_expanded_eq_iff, NamesNoClass]

/-- What stands behind a text is written out by itself, unless the backslash in front of it is left
over. -/
theorem expandClasses_append_iff (r : Reading) :
    (∀ u, expandClasses (r.text ++ u) = expandClasses r.text ++ expandClasses u)
      ↔ r.lone = false := by
  constructor
  · intro h
    cases hlone : r.lone with
    | false => rfl
    | true =>
      -- The backslash that is left over takes the letter behind it.
      have hleft : r.left = ['\\'] := if_pos hlone
      have hletter := h ['d']
      rw [expandClasses_text, expanded, text, List.append_assoc, List.append_assoc,
        r.expands_tokens, List.append_cancel_left_eq, hleft] at hletter
      exact absurd hletter (by decide)
  · intro hlone u
    have hleft : r.left = [] := if_neg (by simp [hlone])
    rw [expandClasses_text, expanded, text, hleft, List.append_nil, List.append_nil,
      r.expands_tokens]

end Reading

/-- **Writing out classes touches the four pairs and nothing else.** Read from left to right, which
can be done in one way only, a text keeps all its tokens but the backslashes with the letters of
digits and word characters, in place of which the classes stand. What comes of it holds none of
these pairs and stays as it is when it is written out again; a text is kept exactly if it holds
none; and what stands behind a text is written out by itself exactly if no backslash is left over
at the end of the text. -/
theorem expandClasses_pairs (t : Text) :
    (∀ r : Reading, r.text = t ↔ r = .ofText t)
      ∧ expandClasses t = (Reading.ofText t).expanded
      ∧ (Reading.ofText (expandClasses t)).NamesNoClass
      ∧ expandClasses (expandClasses t) = expandClasses t
      ∧ (expandClasses t = t ↔ (Reading.ofText t).NamesNoClass)
      ∧ ((∀ u, expandClasses (t ++ u) = expandClasses t ++ expandClasses u)
        ↔ (Reading.ofText t).lone = false) := by
  have hexpanded : ∀ s, expandClasses s = (Reading.ofText s).expanded := by
    intro s
    have htext := (Reading.ofText s).expandClasses_text
    rwa [Reading.text_ofText] at htext
  have hkept : ∀ s, expandClasses s = s ↔ (Reading.ofText s).NamesNoClass := by
    intro s
    rw [← Reading.expanded_eq_text_iff, Reading.text_ofText, hexpanded]
  have hagain : expandClasses (expandClasses t) = expandClasses t := by
    rw [hexpanded t]
    exact Reading.expandClasses_expanded _
  refine ⟨fun r => Reading.text_eq_iff, hexpanded t, (hkept _).mp hagain, hagain, hkept t, ?_⟩
  have happend := (Reading.ofText t).expandClasses_append_iff
  rwa [Reading.text_ofText] at happend

/-- An even number of backslashes leaves the letter behind them alone, an odd number does not. -/
example : expandClasses "\\\\d\\\\\\d\\" = "\\\\d\\\\[0-9]\\".toList := by decide

end Gazetteer.Pattern
