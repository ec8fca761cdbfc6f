/-
# Gazetteer.Proofs.Address.Tags -- where the tags of a template line are seen

Each stage of rendering looks for one kind of tag. It is said here where it sees one: a substitution
is seen where it is written, a section where its opening tag stands with the closing tag behind a
body without section tags, and a first-block where it is written; and none of the stages sees
anything where no opening brace stands. All but substitutions need a sign behind two braces, so they
are not seen in plain text and substitutions. White space at the end of a line is no part of a
substitution and makes none.
-/
import Gazetteer.Address.Template
import Gazetteer.Proofs.Text.Blank
import Gazetteer.Proofs.Text.Chars
import Gazetteer.Proofs.Text.Scan

namespace Gazetteer.Address.Template

open Text (Passes mark)

/-! ## Keys -/

/-- A key is a word that is not empty. -/
def IsKey (k : Text) : Prop := k ≠ [] ∧ ∀ c ∈ k, isWordChar c = true

instance : DecidablePred IsKey := fun _ => inferInstanceAs (Decidable (_ ∧ _))

theorem IsKey.notMem {k : Text} (hk : IsKey k) {c : Char} (hc : isWordChar c = false) : c ∉ k := by
  intro hmem
  rw [hk.2 c hmem] at hc
  exact absurd hc (by simp)

theorem IsKey.isEmpty {k : Text} (hk : IsKey k) : k.isEmpty = false :=
  List.isEmpty_eq_false_iff.mpr hk.1

theorem isKey_leadingWord {t : Text} (h : ¬ (leadingWord t).isEmpty = true) :
    IsKey (leadingWord t) :=
  ⟨by simpa using h, fun c hc => List.all_eq_true.mp List.all_takeWhile c hc⟩

theorem leadingWord_append_drop (t : Text) :
    leadingWord t ++ t.drop (leadingWord t).length = t :=
  List.prefix_iff_eq_append.mp (List.takeWhile_prefix isWordChar)

/-- A key ends where a closing brace stands. -/
theorem leadingWord_append {k : Text} (hk : IsKey k) (t : Text) :
    leadingWord (k ++ '}' :: t) = k := by
  rw [leadingWord, List.takeWhile_append_of_pos hk.2,
    List.takeWhile_cons_of_neg (by decide), List.append_nil]

theorem IsKey.eq_of_prefix {k l t : Text} (hk : IsKey k) (hl : IsKey l)
    (h : l ++ closing <+: k ++ (closing ++ t)) : l = k := by
  obtain ⟨s, hs⟩ := h
  have hword : leadingWord (l ++ '}' :: '}' :: s) = leadingWord (k ++ '}' :: '}' :: t) := by
    rw [List.append_assoc] at hs
    exact congrArg leadingWord hs
  rwa [leadingWord_append hl, leadingWord_append hk] at hword

/-! ## Forms that start with a brace -/

/-- Nothing is seen but at an opening brace. -/
def StartsBraced {α : Type} (form : Text.Form α) : Prop :=
  ∀ c t, c ≠ '{' → form (c :: t) = none

/-- Nothing is seen but where a section sign or a slash stands behind two braces. -/
def StartsSigned {α : Type} (form : Text.Form α) : Prop :=
  ∀ t, (∀ sign ∈ ['#', '^', '/'], ¬ opening ++ [sign] <+: t) → form t = none

variable {α : Type} {form : Text.Form α}

theorem not_opening_prefix {c : Char} {t : Text} (hc : c ≠ '{') (s : Text) :
    ¬ opening ++ s <+: c :: t := by
  intro h
  exact hc (List.cons_prefix_cons.mp h).1.symm

theorem StartsSigned.startsBraced (h : StartsSigned form) : StartsBraced form :=
  fun _ _ hc => h _ fun sign _ => not_opening_prefix hc [sign]

theorem StartsBraced.passes (h : StartsBraced form) {u : Text} (hu : '{' ∉ u) : Passes form u :=
  Text.passes_of_forall fun c hc t => h c t fun heq => hu (heq ▸ hc)

/-! ## What is not seen -/

theorem braced_eq_none {n : Nat} {t : Text} (h : ¬ List.replicate n '{' <+: t) :
    braced n t = none := by
  rw [braced, Text.isPrefixOf?_eq_none (Text.mark_eq_none h)]
  rfl

theorem startsBraced_substitution : StartsBraced substitution? := by
  intro c t hc
  have hnone : ∀ n, braced (n + 1) (c :: t) = none := by
    intro n
    apply braced_eq_none
    rw [List.replicate_succ]
    exact fun h => hc (List.cons_prefix_cons.mp h).1.symm
  rw [substitution?, hnone 2, hnone 1]
  rfl

theorem startsSigned_mark {s : Text} {sign : Char} (hsign : sign ∈ ['#', '^', '/']) :
    StartsSigned (mark (tag (sign :: s))) := by
  intro t h
  apply Text.mark_eq_none
  intro hprefix
  apply h sign hsign
  refine List.IsPrefix.trans ?_ hprefix
  exact ⟨s ++ closing, by simp [tag]⟩

theorem startsSigned_section : StartsSigned section? := by
  intro t h
  rw [section?]
  split
  · rename_i sign inner heq
    have hprefix : opening ++ [sign] <+: t := by
      rw [← List.isPrefixOf?_eq_some_iff_append_eq.mp heq]
      exact ⟨inner, by simp⟩
    have hsign : sectionSign? sign = none := by
      unfold sectionSign?
      split
      · exact absurd hprefix (h '#' (by simp))
      · exact absurd hprefix (h '^' (by simp))
      · rfl
    rw [hsign]
    rfl
  · rfl

theorem firstOpen_eq : firstOpen = tag ('#' :: "first") := rfl

theorem firstClose_eq : firstClose = tag ('/' :: "first") := rfl

theorem startsSigned_firstBlock : StartsSigned firstBlock? := by
  intro t h
  have hmark : mark firstOpen t = none := by
    rw [firstOpen_eq]
    exact startsSigned_mark (by simp) t h
  rw [firstBlock?, Text.isPrefixOf?_eq_none hmark]
  rfl

/-! ## What is seen -/

theorem braced_append {n : Nat} {k : Text} (hn : 0 < n) (hk : IsKey k) (t : Text) :
    braced n (List.replicate n '{' ++ (k ++ (List.replicate n '}' ++ t)))
      = some (k, k.length + 2 * n) := by
  have hword : leadingWord (k ++ (List.replicate n '}' ++ t)) = k := by
    obtain ⟨m, rfl⟩ : ∃ m, n = m + 1 := ⟨n - 1, by omega⟩
    rw [List.replicate_succ, List.cons_append]
    exact leadingWord_append hk _
  have hclose : (List.replicate n '}').isPrefixOf (List.replicate n '}' ++ t) = true :=
    List.isPrefixOf_iff_prefix.mpr (List.prefix_append _ t)
  rw [braced, Text.isPrefixOf?_append, Option.bind_eq_bind, Option.bind_some]
  simp only [hword, hk.isEmpty, List.drop_left, hclose, if_true, Bool.false_eq_true, if_false]

/-- A substitution in three braces is seen. -/
theorem substitution?_triple {k : Text} (hk : IsKey k) (t : Text) :
    substitution? (('{' :: tag k ++ ['}']) ++ t) = some (k, ('{' :: tag k ++ ['}']).length) := by
  have hthree : braced 3 (('{' :: tag k ++ ['}']) ++ t) = some (k, k.length + 2 * 3) := by
    have h := braced_append (n := 3) (by omega) hk t
    simpa [tag, opening, closing, List.replicate_succ] using h
  rw [substitution?, hthree]
  simp [tag, opening, closing]

/-- A substitution in two braces is seen. -/
theorem substitution?_double {k : Text} (hk : IsKey k) (t : Text) :
    substitution? (tag k ++ t) = some (k, (tag k).length) := by
  -- A third brace would be the first character of the key.
  have hthree : braced 3 (tag k ++ t) = none := by
    apply braced_eq_none
    intro h
    obtain ⟨c, k, rfl⟩ := List.exists_cons_of_ne_nil hk.1
    have hc : '{' = c := by
      simpa [tag, opening, List.replicate_succ, List.cons_prefix_cons] using h
    exact hk.notMem (c := '{') (by decide) (hc ▸ List.mem_cons_self)
  have htwo : braced 2 (tag k ++ t) = some (k, k.length + 2 * 2) := by
    have h := braced_append (n := 2) (by omega) hk t
    simpa [tag, opening, closing, List.replicate_succ] using h
  rw [substitution?, hthree, htwo]
  simp [tag, opening, closing]

/-- What is seen between braces is a key with as many braces on each side. -/
theorem of_braced {n size : Nat} {t k : Text} (h : braced n t = some (k, size)) :
    ∃ after, IsKey k
      ∧ t = List.replicate n '{' ++ (k ++ (List.replicate n '}' ++ after))
      ∧ size = k.length + 2 * n := by
  rw [braced, Option.bind_eq_bind, Option.bind_eq_some_iff] at h
  obtain ⟨inner, hopen, h⟩ := h
  dsimp only at h
  split at h
  · exact absurd h (by simp)
  rename_i hempty
  split at h
  · rename_i hclose
    obtain ⟨rfl, rfl⟩ := Prod.mk.inj (Option.some.inj h)
    obtain ⟨after, hafter⟩ := List.isPrefixOf_iff_prefix.mp hclose
    have hinner : leadingWord inner ++ (List.replicate n '}' ++ after) = inner := by
      rw [hafter]
      exact leadingWord_append_drop inner
    refine ⟨after, isKey_leadingWord hempty, ?_, rfl⟩
    rw [hinner, List.isPrefixOf?_eq_some_iff_append_eq.mp hopen]
  · exact absurd h (by simp)

/-- A section is seen up to the closing tag at which its content is cut. -/
theorem section?_of_cut? {k body t : Text} {sign : Char} {inverted : Bool} (hk : IsKey k)
    (hcut : Text.cut? (tag ('/' :: k)) (body ++ (tag ('/' :: k) ++ t)) = some (body, t))
    (hsign : sectionSign? sign = some inverted) : section?
      (tag (sign :: k) ++ (body ++ (tag ('/' :: k) ++ t)))
      = some (⟨k, inverted, body⟩, (tag (sign :: k) ++ (body ++ tag ('/' :: k))).length) := by
  have hopen : opening.isPrefixOf? (tag (sign :: k) ++ (body ++ (tag ('/' :: k) ++ t)))
      = some (sign :: (k ++ (closing ++ (body ++ (tag ('/' :: k) ++ t))))) := by
    rw [List.isPrefixOf?_eq_some_iff_append_eq]
    simp [tag]
  have hword : leadingWord (k ++ (closing ++ (body ++ (tag ('/' :: k) ++ t)))) = k :=
    leadingWord_append hk _
  rw [section?, hopen]
  simp only [hsign, Option.bind_eq_bind, Option.bind_some, hword, hk.isEmpty, Bool.false_eq_true,
    if_false, List.drop_left, Text.isPrefixOf?_append, hcut, Option.map_some, Option.some.injEq,
    Prod.mk.injEq, true_and]
  simp only [tag, opening, closing, List.length_append, List.length_cons, List.length_nil]
  omega

/-- A section is seen when no closing tag of its key starts in its body. -/
theorem section?_append {k body : Text} {sign : Char} {inverted : Bool} (hk : IsKey k)
    (hsign : sectionSign? sign = some inverted) (hbody : Passes (mark (tag ('/' :: k))) body)
    (t : Text) : section? (tag (sign :: k) ++ (body ++ (tag ('/' :: k) ++ t)))
      = some (⟨k, inverted, body⟩, (tag (sign :: k) ++ (body ++ tag ('/' :: k))).length) := by
  refine section?_of_cut? hk ?_ hsign
  exact Text.cut?_append (by simp [tag, opening]) hbody t

/-- What is seen as a section is an opening tag, a body and the closing tag. -/
theorem of_section? {t : Text} {s : Section} {size : Nat} (h : section? t = some (s, size)) :
    ∃ sign after, sectionSign? sign = some s.inverted ∧ IsKey s.key
      ∧ t = tag (sign :: s.key) ++ (s.body ++ (tag ('/' :: s.key) ++ after))
      ∧ size = (tag (sign :: s.key) ++ (s.body ++ tag ('/' :: s.key))).length := by
  rw [section?] at h
  split at h
  · rename_i sign inner hopen
    simp only [Option.bind_eq_bind, Option.bind_eq_some_iff] at h
    obtain ⟨inverted, hsign, h⟩ := h
    split at h
    · exact absurd h (by simp)
    rename_i hempty
    obtain ⟨content, hclosing, h⟩ := Option.bind_eq_some_iff.mp h
    obtain ⟨⟨body, after⟩, hcut, h⟩ := Option.map_eq_some_iff.mp h
    obtain ⟨rfl, rfl⟩ := Prod.mk.inj h
    have hinner : leadingWord inner ++ (closing ++ content) = inner := by
      rw [List.isPrefixOf?_eq_some_iff_append_eq.mp hclosing]
      exact leadingWord_append_drop inner
    refine ⟨sign, after, hsign, isKey_leadingWord hempty, ?_, ?_⟩
    · rw [← List.isPrefixOf?_eq_some_iff_append_eq.mp hopen, ← Text.eq_of_cut? hcut]
      conv_lhs => rw [← hinner]
      simp [tag]
    · simp only [tag, opening, closing, List.length_append, List.length_cons, List.length_nil]
      omega
  · exact absurd h (by simp)

/-- A first-block is seen up to the closing tag at which its content is cut. -/
theorem firstBlock?_of_cut? {body t : Text}
    (hcut : Text.cut? firstClose (body ++ (firstClose ++ t)) = some (body, t)) :
    firstBlock? (firstOpen ++ (body ++ (firstClose ++ t)))
      = some (alternatives body, (firstOpen ++ (body ++ firstClose)).length) := by
  rw [firstBlock?, Text.isPrefixOf?_append, Option.bind_eq_bind, Option.bind_some, hcut]
  simp only [Option.map_some, List.length_append, Nat.add_assoc]

/-- A first-block is seen when no closing tag starts in its body. -/
theorem firstBlock?_append {body : Text} (hbody : Passes (mark firstClose) body) (t : Text) :
    firstBlock? (firstOpen ++ (body ++ (firstClose ++ t)))
      = some (alternatives body, (firstOpen ++ (body ++ firstClose)).length) :=
  firstBlock?_of_cut? (Text.cut?_append (by decide) hbody t)

/-- What is seen as a first-block is the opening tag, a body and the closing tag. -/
theorem of_firstBlock? {t : Text} {found : List Text} {size : Nat}
    (h : firstBlock? t = some (found, size)) :
    ∃ body after, found = alternatives body ∧ t = firstOpen ++ (body ++ (firstClose ++ after))
      ∧ size = (firstOpen ++ (body ++ firstClose)).length := by
  rw [firstBlock?, Option.bind_eq_bind, Option.bind_eq_some_iff] at h
  obtain ⟨content, hopen, h⟩ := h
  obtain ⟨⟨body, after⟩, hcut, h⟩ := Option.map_eq_some_iff.mp h
  obtain ⟨rfl, rfl⟩ := Prod.mk.inj h
  refine ⟨body, after, rfl, ?_, ?_⟩
  · rw [← List.isPrefixOf?_eq_some_iff_append_eq.mp hopen, ← Text.eq_of_cut? hcut]
  · simp only [List.length_append, Nat.add_assoc]

/-- A section tag of another key is no first-block. -/
theorem passes_firstBlock_tag {k : Text} {sign : Char} (hk : IsKey k) (hne : k ≠ "first".toList)
    (hsign : sign ≠ '{') : Passes firstBlock? (tag (sign :: k)) := by
  have hbraced : StartsBraced firstBlock? := startsSigned_firstBlock.startsBraced
  have hrest : '{' ∉ sign :: k ++ closing := by
    have hmem : '{' ∉ k := hk.notMem (by decide)
    simp [closing, hmem, hsign.symm]
  refine .cons ?_ (.cons ?_ (hbraced.passes hrest))
  -- Where the tag starts, the word of a first-block would have to be its key.
  · intro t
    have hmark : mark firstOpen (tag (sign :: k) ++ t) = none := by
      apply Text.mark_eq_none
      intro h
      have hkeys : "first".toList ++ closing <+: k ++ (closing ++ t) := by
        have htail : '#' :: ("first".toList ++ closing) <+: sign :: (k ++ (closing ++ t)) := by
          have hopen : opening ++ '#' :: ("first".toList ++ closing)
              <+: opening ++ sign :: (k ++ (closing ++ t)) := by
            simpa [firstOpen_eq, tag] using h
          exact (List.prefix_append_right_inj opening).mp hopen
        exact (List.cons_prefix_cons.mp htail).2
      exact hne (hk.eq_of_prefix (by decide) hkeys).symm
    show firstBlock? (tag (sign :: k) ++ t) = none
    rw [firstBlock?, Text.isPrefixOf?_eq_none hmark]
    rfl
  -- At its second brace only one brace is left.
  · intro t
    apply startsSigned_firstBlock
    intro other _ h
    have hsecond : ['{', other] <+: sign :: (k ++ closing ++ t) := (List.cons_prefix_cons.mp h).2
    exact hsign (List.cons_prefix_cons.mp hsecond).1.symm

/-! ## White space behind -/

theorem isWordChar_of_isBlankChar {c : Char} (hc : Text.isBlankChar c = true) :
    isWordChar c = false := by
  have hrange : c.toNat ≤ 32 ∨ 133 ≤ c.toNat := Text.toNat_of_isBlankChar hc
  rw [isWordChar, Bool.or_eq_false_iff, beq_eq_false_iff_ne, Bool.eq_false_iff]
  refine ⟨?_, ?_⟩
  · intro hword
    have hword := Text.isAlphanum_iff.mp hword
    omega
  · rintro rfl
    exact absurd hc (by decide)

theorem leadingWord_append_blank {b : Text} (hb : Text.isBlank b = true) (t : Text) :
    leadingWord (t ++ b) = leadingWord t := by
  induction t with
  | nil =>
    cases b with
    | nil => rfl
    | cons c b =>
      have hc : Text.isBlankChar c = true := List.all_eq_true.mp hb c (by simp)
      exact List.takeWhile_cons_of_neg (by simp [isWordChar_of_isBlankChar hc])
  | cons c t ih =>
    rw [leadingWord, leadingWord] at ih
    rw [leadingWord, leadingWord, List.cons_append, List.takeWhile_cons, List.takeWhile_cons, ih]

theorem notMem_of_isBlank {b : Text} (hb : Text.isBlank b = true) {c : Char}
    (hc : Text.isBlankChar c = false) : c ∉ b := by
  intro hmem
  rw [List.all_eq_true.mp hb c hmem] at hc
  exact absurd hc (by simp)

theorem braced_append_blank {b : Text} (hb : Text.isBlank b = true) (n : Nat) (t : Text) :
    braced n (t ++ b) = braced n t := by
  have hbrace : ∀ brace, Text.isBlankChar brace = false →
      ∀ c ∈ List.replicate n brace, c ∉ b := by
    intro brace hbrace c hc
    rw [List.eq_of_mem_replicate hc]
    exact notMem_of_isBlank hb hbrace
  rw [braced, braced, Text.isPrefixOf?_append_of_notMem (hbrace '{' (by decide))]
  cases hinner : (List.replicate n '{').isPrefixOf? t with
  | none => rfl
  | some inner =>
    have hlength : (leadingWord inner).length ≤ inner.length :=
      (List.takeWhile_prefix isWordChar).length_le
    -- White space adds no closing brace either.
    have hclose := Text.isPrefixOf?_append_of_notMem (hbrace '}' (by decide))
      (inner.drop (leadingWord inner).length)
    have hsame := congrArg Option.isSome hclose
    rw [List.isSome_isPrefixOf?_eq_isPrefixOf, Option.isSome_map,
      List.isSome_isPrefixOf?_eq_isPrefixOf] at hsame
    simp only [Option.map_some, Option.bind_eq_bind, Option.bind_some,
      leadingWord_append_blank hb, List.drop_append_of_le_length hlength, hsame]

theorem length_le_of_braced {n size : Nat} {t k : Text} (h : braced n t = some (k, size)) :
    size ≤ t.length := by
  obtain ⟨after, -, rfl, rfl⟩ := of_braced h
  simp only [List.length_append, List.length_replicate]
  omega

/-- White space behind a line makes no difference to its substitutions. -/
theorem substitution?_ignores {b : Text} (hb : Text.isBlank b = true) :
    Text.Form.Ignores substitution? b where
  size_le := by
    intro t k size h
    rw [substitution?, Option.orElse_eq_orElse, Option.orElse_eq_or, Option.or_eq_some_iff] at h
    rcases h with h | ⟨-, h⟩
    · exact length_le_of_braced h
    · exact length_le_of_braced h
  append := by
    intro t _
    rw [substitution?, substitution?, braced_append_blank hb, braced_append_blank hb]
  passes := startsBraced_substitution.passes (notMem_of_isBlank hb (by decide))

/-- The ends of an alternative may be trimmed before it is rendered or after. -/
theorem renderAlternative_trim (resolve : Resolver) (t : Text) :
    renderAlternative resolve (Text.trim t) = Text.trim (substitute resolve t) := by
  obtain ⟨a, b, ha, hb, ht⟩ := Text.exists_trim t
  have hsubst : substitute resolve t = a ++ (substitute resolve (Text.trim t) ++ b) := by
    conv_lhs => rw [ht]
    exact (substitution?_ignores hb).replaceWith_between (substitution?_ignores ha).passes _
  rw [renderAlternative, hsubst, Text.trim_between ha hb]

end Gazetteer.Address.Template
