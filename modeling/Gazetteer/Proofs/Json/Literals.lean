/-
# Gazetteer.Proofs.Json.Literals -- what a reader makes of a literal, faults included

`Settles` says what a reader makes of a text at the front of a stream, be it a value or a fault, and
that nothing behind the text has a say in it. Every literal of the grammar is settled in this sense: a
text in quotes is the text that it means, or malformed if it means none (`quotedText_settles`), and a
number is what the reader of numbers makes of it alone (`readNumber_settles`). A literal that is
passed over never fails (`skipText_takes`, `skipNumber_reads`).
-/
import Gazetteer.Json.Skip
import Gazetteer.Proofs.Json.Grammar

namespace Gazetteer.Json

open Storage (Ending)
open Text (utf8)

variable {α β : Type}

/-! ## Settled readers -/

/-- The reader makes a value or a fault of a text at the front of a stream, whatever is behind it, if
that ends a number. -/
def Settles (r : Reader α) (t : Text) (o : Except Fault α) : Prop :=
  ∀ ending rest, Stops ending rest → r ending (utf8 t ++ rest) = o.map (·, rest)

/-- The reader gives a value and leaves the end of a text. -/
def Steps (r : Reader α) (t u : Text) (a : α) : Prop :=
  ∀ ending rest, Stops ending rest → r ending (utf8 t ++ rest) = .ok (a, utf8 u ++ rest)

theorem Reads.settles {r : Reader α} {t : Text} {a : α} (h : Reads r t a) : Settles r t (.ok a) := h

theorem Steps.reads {r : Reader α} {t : Text} {a : α} (h : Steps r t [] a) : Reads r t a := h

theorem Takes.steps {r : Reader α} {s : Text} {a : α} (h : Takes r s a) (t : Text) :
    Steps r (s ++ t) t a := by
  intro ending rest _
  rw [Text.utf8_append, List.append_assoc]
  exact h ending _

theorem settles_pure (a : α) : Settles (pure a : Reader α) [] (.ok a) := fun _ _ _ => rfl

theorem settles_fail (f : Fault) (t : Text) : Settles (Reader.fail f : Reader α) t (.error f) :=
  fun _ _ _ => rfl

theorem Steps.bind {x : Reader α} {f : α → Reader β} {t u : Text} {a : α} {o : Except Fault β}
    (hx : Steps x t u a) (hf : Settles (f a) u o) : Settles (x >>= f) t o := by
  intro ending rest hstop
  rw [Reader.bind_eq (hx ending rest hstop)]
  exact hf ending rest hstop

theorem Steps.trans {x : Reader α} {f : α → Reader β} {t u v : Text} {a : α} {b : β}
    (hx : Steps x t u a) (hf : Steps (f a) u v b) : Steps (x >>= f) t v b := by
  intro ending rest hstop
  rw [Reader.bind_eq (hx ending rest hstop)]
  exact hf ending rest hstop

/-- What follows a settled reader sees its value, or does not come to pass. -/
theorem Settles.bind {x : Reader α} {f : α → Reader β} {t : Text} {o : Except Fault α}
    {g : α → Except Fault β} (hx : Settles x t o) (hf : ∀ a, Settles (f a) [] (g a)) :
    Settles (x >>= f) t (o >>= g) := by
  intro ending rest hstop
  have hread := hx ending rest hstop
  show (x ending (utf8 t ++ rest) >>= fun p => f p.1 ending p.2) = _
  rw [hread]
  cases o with
  | error e => rfl
  | ok a => exact hf a ending rest hstop

theorem Settles.map {x : Reader α} {t : Text} {o : Except Fault α} (hx : Settles x t o)
    (f : α → β) : Settles (f <$> x) t (o.map f) := by
  have hbind := hx.bind (f := fun a => pure (f a)) fun a => settles_pure (f a)
  cases o <;> exact hbind

/-- What a reader makes of a text is what it makes of the text alone. -/
theorem Settles.eq_alone {r : Reader α} {t : Text} {o : Except Fault α} (h : Settles r t o) :
    o = (r .complete (utf8 t)).map (·.1) := by
  have halone := h .complete [] rfl
  rw [List.append_nil] at halone
  rw [halone]
  cases o <;> rfl

theorem token_bind_settles {f : Char → Reader β} {w t : Text} {c : Char} {o : Except Fault β}
    (hw : IsSpace w) (hc : IsSign c) (hf : Settles (f c) (c :: t) o) :
    Settles (Reader.token >>= f) (w ++ c :: t) o := by
  intro ending rest hstop
  rw [Reader.bind_eq (Reader.token_eq hw hc ending t rest)]
  exact hf ending rest hstop

theorem advance_steps {c : Char} (hc : c.toNat < 0x80) (t : Text) :
    Steps Reader.advance (c :: t) t () := fun ending rest _ => Reader.advance_eq hc ending t rest

theorem peek_steps {c : Char} (hc : c.toNat < 0x80) (t : Text) :
    Steps Reader.peek (c :: t) (c :: t) c := by
  intro ending rest _
  rw [utf8_cons_ascii hc, List.cons_append]
  show Except.ok (Reader.sign (.ofNat c.toNat), _) = _
  rw [sign_ofNat hc]

theorem peek?_steps {c : Char} (hc : c.toNat < 0x80) (t : Text) :
    Steps Reader.peek? (c :: t) (c :: t) (some c) := by
  intro ending rest _
  rw [utf8_cons_ascii hc, List.cons_append]
  show Except.ok (some (Reader.sign (.ofNat c.toNat)), _) = _
  rw [sign_ofNat hc]

/-- Behind a number stands nothing, or a byte that continues no number. -/
theorem Stops.peek? {ending : Ending} {rest : List UInt8} (h : Stops ending rest) :
    ∃ mark : Option Char, Reader.peek? ending rest = .ok (mark, rest)
      ∧ ∀ c, continuesNumber c = true → mark ≠ some c := by
  cases rest with
  | nil =>
    have hcomplete : ending = .complete := h
    subst hcomplete
    exact ⟨none, rfl, by simp⟩
  | cons b rest =>
    have hsign : continuesNumber (Reader.sign b) = false := h
    refine ⟨some (Reader.sign b), rfl, ?_⟩
    rintro c hc heq
    rw [Option.some.inj heq, hc] at hsign
    exact absurd hsign (by decide)

/-! ## Texts in quotes -/

theorem hexValue?_hexDigit' (c : HexDigit) : hexValue? (.ofNat c.val.toNat) = some c.value := by
  have hall : ∀ c ∈ hexDigits, hexValue? (.ofNat c.toNat)
      = some (("0123456789abcdef".toList).idxOf c.toLower) := by decide
  exact hall c.val c.property

theorem HexDigit.ascii (c : HexDigit) : c.val.toNat < 0x80 := by
  have hall : ∀ c ∈ hexDigits, c.toNat < 0x80 := by decide
  exact hall c.val c.property

/-- The bytes of four digits. -/
theorem utf8_code (a b c d : HexDigit) :
    utf8 [a.val, b.val, c.val, d.val] = [.ofNat a.val.toNat, .ofNat b.val.toNat,
      .ofNat c.val.toNat, .ofNat d.val.toNat] := by
  rw [utf8_cons_ascii a.ascii, utf8_cons_ascii b.ascii, utf8_cons_ascii c.ascii,
    utf8_cons_ascii d.ascii, Text.utf8_nil]

theorem fourHex_code (ending : Ending) (a b c d : HexDigit) (rest : List UInt8) :
    fourHex ending (utf8 [a.val, b.val, c.val, d.val] ++ rest) = .ok (unitOf a b c d) := by
  rw [utf8_code]
  simp only [List.cons_append, fourHex, hexValue?_hexDigit', unitOf]

/-- The eight characters of short escapes. -/
theorem ascii_of_shortEscape? {c : Char} (h : (shortEscape? c).isSome = true) :
    c.toNat < 0x80 ∧ c ≠ 'u' := by
  unfold shortEscape? at h
  split at h <;> first | exact absurd h (by decide) | decide

/-- A character that stands for itself has bytes that do so. -/
theorem isPlainByte_of_mem {c : Char} (h : 0x20 ≤ c.toNat ∧ c ≠ '"' ∧ c ≠ '\\') {b : UInt8}
    (hb : b ∈ String.utf8EncodeChar c) : IsPlainByte b := by
  rcases Nat.lt_or_ge c.toNat 0x80 with hascii | hascii
  · rw [Text.utf8EncodeChar_one hascii, List.mem_singleton] at hb
    subst hb
    refine ⟨?_, ?_, ?_⟩
    · rw [Text.toNat_byte (by omega)]
      exact h.1
    · rw [sign_ofNat hascii]
      exact h.2.1
    · rw [sign_ofNat hascii]
      exact h.2.2
  · exact isPlainByte_of_le (Text.le_of_mem_utf8EncodeChar hascii hb)

namespace Literal

/-- The text that a literal is read as. -/
def read (l : Literal) : Except Fault Text := l.text?.elim (.error .malformed) .ok

/-- The bytes of a text that may be missing, in front of others. -/
def bytesOf (t : Option Text) (rest : List UInt8) : Except Fault (List UInt8 × List UInt8) :=
  t.elim (.error .malformed) fun t => .ok (utf8 t, rest)

theorem map_bytesOf (c : Char) (t : Option Text) (rest : List UInt8) :
    (bytesOf t rest).map (fun (bytes, rest) => (String.utf8EncodeChar c ++ bytes, rest))
      = bytesOf ((c :: ·) <$> t) rest := by
  cases t <;> rfl

theorem body_cons (p : Piece) (l : Literal) : body (p :: l) = p.written ++ l.body := by
  rw [body, body, List.flatMap_cons, List.append_assoc]

theorem utf8_body_cons (p : Piece) (l : Literal) (rest : List UInt8) :
    utf8 (body (p :: l)) ++ rest = utf8 p.written ++ (utf8 l.body ++ rest) := by
  rw [body_cons, Text.utf8_append, List.append_assoc]

/-- The bytes of an escape with four digits. -/
theorem utf8_written_code (a b c d : HexDigit) (rest : List UInt8) :
    utf8 (Piece.written (.code a b c d)) ++ rest
      = .ofNat '\\'.toNat :: .ofNat 'u'.toNat :: (utf8 [a.val, b.val, c.val, d.val] ++ rest) := rfl

/-- A backslash with what stands behind it, if that is malformed. -/
theorem quotedBytes_escape_error {ending : Ending} {bytes : List UInt8}
    (h : escape ending bytes = .error .malformed) :
    quotedBytes ending 0 (.ofNat '\\'.toNat :: bytes) = .error .malformed := by
  have hquote : Reader.sign (.ofNat '\\'.toNat) ≠ '"' := by decide
  have hslash : Reader.sign (.ofNat '\\'.toNat) = '\\' := by decide
  rw [quotedBytes, if_neg hquote, if_pos hslash, h]

/-- An escape with four digits is as good as the unit that they write. -/
theorem escape_code (ending : Ending) (a b c d : HexDigit) (rest : List UInt8) :
    escape ending (.ofNat 'u'.toNat :: (utf8 [a.val, b.val, c.val, d.val] ++ rest))
      = (unicodeEscape ending (utf8 [a.val, b.val, c.val, d.val] ++ rest)).map
        fun (c, size) => (c, size + 1) := by
  have hmark : Reader.sign (.ofNat 'u'.toNat) = 'u' := by decide
  rw [escape, if_pos hmark]

theorem unicodeEscape_single (ending : Ending) {a b c d : HexDigit}
    (htrailing : isTrailing (unitOf a b c d) = false)
    (hleading : isLeading (unitOf a b c d) = false) (rest : List UInt8) :
    unicodeEscape ending (utf8 [a.val, b.val, c.val, d.val] ++ rest)
      = .ok (Char.ofNat (unitOf a b c d), 4) := by
  simp [unicodeEscape, fourHex_code, htrailing, hleading, bind, Except.bind]

theorem unicodeEscape_trailing (ending : Ending) {a b c d : HexDigit}
    (htrailing : isTrailing (unitOf a b c d) = true) (rest : List UInt8) :
    unicodeEscape ending (utf8 [a.val, b.val, c.val, d.val] ++ rest) = .error .malformed := by
  simp [unicodeEscape, fourHex_code, htrailing, bind, Except.bind]

theorem isTrailing_of_isLeading {n : Nat} (h : isLeading n = true) : isTrailing n = false := by
  simp only [isLeading, isTrailing, Bool.and_eq_true, decide_eq_true_eq, Bool.and_eq_false_iff,
    decide_eq_false_iff_not] at *
  omega

/-- The first half of a pair needs an escape behind it. -/
theorem unicodeEscape_leading (ending : Ending) {a b c d : HexDigit}
    (hleading : isLeading (unitOf a b c d) = true) {first : UInt8}
    (hfirst : Reader.sign first ≠ '\\') (rest : List UInt8) :
    unicodeEscape ending (utf8 [a.val, b.val, c.val, d.val] ++ first :: rest)
      = .error .malformed := by
  have hdrop : (utf8 [a.val, b.val, c.val, d.val] ++ first :: rest).drop 4 = first :: rest := by
    rw [utf8_code]
    rfl
  have htrailing := isTrailing_of_isLeading hleading
  simp [unicodeEscape, fourHex_code, htrailing, hleading, hdrop, hfirst, bind, Except.bind]

/-- The first half of a pair needs four digits behind it. -/
theorem unicodeEscape_leading_short (ending : Ending) {a b c d : HexDigit}
    (hleading : isLeading (unitOf a b c d) = true) {letter : UInt8}
    (hletter : Reader.sign letter ≠ 'u') (rest : List UInt8) :
    unicodeEscape ending
        (utf8 [a.val, b.val, c.val, d.val] ++ .ofNat '\\'.toNat :: letter :: rest)
      = .error .malformed := by
  have hdrop : (utf8 [a.val, b.val, c.val, d.val] ++ .ofNat '\\'.toNat :: letter :: rest).drop 4
      = .ofNat '\\'.toNat :: letter :: rest := by
    rw [utf8_code]
    rfl
  have hslash : Reader.sign (.ofNat '\\'.toNat) = '\\' := by decide
  have htrailing := isTrailing_of_isLeading hleading
  simp only [unicodeEscape, fourHex_code, htrailing, hleading, hdrop, hslash, hletter, bind,
    Except.bind, ne_eq, not_true_eq_false, not_false_eq_true, if_false, if_true, Bool.not_true,
    Bool.false_eq_true]

/-- Two halves make a character. -/
theorem unicodeEscape_pair (ending : Ending) {a b c d a' b' c' d' : HexDigit}
    (hleading : isLeading (unitOf a b c d) = true) (rest : List UInt8) :
    unicodeEscape ending (utf8 [a.val, b.val, c.val, d.val]
        ++ (utf8 (Piece.written (.code a' b' c' d')) ++ rest))
      = if isTrailing (unitOf a' b' c' d') then
          .ok (pairChar (unitOf a b c d) (unitOf a' b' c' d'), 10)
        else .error .malformed := by
  have hdrop : (utf8 [a.val, b.val, c.val, d.val]
        ++ (utf8 (Piece.written (.code a' b' c' d')) ++ rest)).drop 4
      = .ofNat '\\'.toNat :: .ofNat 'u'.toNat
        :: (utf8 [a'.val, b'.val, c'.val, d'.val] ++ rest) := by
    rw [utf8_code a b c d]
    rfl
  have hslash : Reader.sign (.ofNat '\\'.toNat) = '\\' := by decide
  have hmark : Reader.sign (.ofNat 'u'.toNat) = 'u' := by decide
  have htrailing := isTrailing_of_isLeading hleading
  simp only [unicodeEscape, fourHex_code, htrailing, hleading, hdrop, hslash, hmark, pairChar, bind,
    Except.bind, ne_eq, not_true_eq_false, if_false, Bool.not_true, Bool.false_eq_true]

/-- The second half of a pair does not follow. -/
theorem quotedBytes_leading_error {ending : Ending} {a b c d : HexDigit} {behind : List UInt8}
    (h : unicodeEscape ending (utf8 [a.val, b.val, c.val, d.val] ++ behind) = .error .malformed) :
    quotedBytes ending 0 (utf8 (Piece.written (.code a b c d)) ++ behind) = .error .malformed := by
  rw [utf8_written_code]
  refine quotedBytes_escape_error ?_
  rw [escape_code, h]
  rfl

/-- The reader finds the bytes of the text that a literal means behind its opening quote. -/
def IsFound (ending : Ending) (rest : List UInt8) (l : Literal) : Prop :=
  quotedBytes ending 0 (utf8 (body l) ++ rest) = bytesOf (text? l) rest

theorem IsFound.plain {ending : Ending} {rest : List UInt8} {c : Char}
    {h : 0x20 ≤ c.toNat ∧ c ≠ '"' ∧ c ≠ '\\'} {l : Literal} (hfound : IsFound ending rest l) :
    IsFound ending rest (.plain c h :: l) := by
  have hplain := quotedBytes_plain ending (fun b hb => isPlainByte_of_mem h hb)
    (utf8 (body l) ++ rest)
  have htext : text? (.plain c h :: l) = (c :: ·) <$> text? l := rfl
  rw [IsFound, utf8_body_cons, Piece.written, Text.utf8_cons, Text.utf8_nil, List.append_nil, hplain,
    hfound, map_bytesOf, htext]

theorem IsFound.short {ending : Ending} {rest : List UInt8} {c : Char}
    {h : (shortEscape? c).isSome = true} {l : Literal} (hfound : IsFound ending rest l) :
    IsFound ending rest (.short c h :: l) := by
  obtain ⟨hascii, hletter⟩ := ascii_of_shortEscape? h
  have hsign : Reader.sign (.ofNat c.toNat) = c := sign_ofNat hascii
  have hescape : ∀ bytes, escape ending ([.ofNat c.toNat] ++ bytes)
      = .ok ((shortEscape? c).get h, 1) := by
    intro bytes
    obtain ⟨d, hd⟩ := Option.isSome_iff_exists.mp h
    simp only [List.singleton_append, escape, hsign, if_neg hletter, hd, Option.get_some]
  have hwritten : utf8 (Piece.written (.short c h)) = .ofNat '\\'.toNat :: [.ofNat c.toNat] := by
    rw [Piece.written, utf8_cons_ascii (by decide), utf8_cons_ascii hascii, Text.utf8_nil]
  have htext : text? (.short c h :: l) = ((shortEscape? c).get h :: ·) <$> text? l := rfl
  rw [IsFound, utf8_body_cons, hwritten, quotedBytes_escape hescape, hfound, map_bytesOf, htext]

/-- A piece that is a character by itself. -/
theorem IsFound.single {ending : Ending} {rest : List UInt8} {a b c d : HexDigit} {l : Literal}
    (htrailing : ¬ isTrailing (unitOf a b c d) = true)
    (hleading : ¬ isLeading (unitOf a b c d) = true) (h : IsFound ending rest l) :
    IsFound ending rest (.code a b c d :: l) := by
  have htext : text? (.code a b c d :: l) = (Char.ofNat (unitOf a b c d) :: ·) <$> text? l := by
    simp [text?, textFrom?, htrailing, hleading]
  let code := UInt8.ofNat 'u'.toNat :: utf8 [a.val, b.val, c.val, d.val]
  have hescape : ∀ bytes, escape ending (code ++ bytes)
      = .ok (Char.ofNat (unitOf a b c d), code.length) := by
    intro bytes
    have hlength : code.length = 5 := by
      simp only [code, utf8_code]
      rfl
    rw [List.cons_append, escape_code,
      unicodeEscape_single ending (Bool.eq_false_iff.mpr htrailing)
        (Bool.eq_false_iff.mpr hleading), hlength]
    rfl
  rw [IsFound, utf8_body_cons, utf8_written_code, ← List.cons_append, ← List.cons_append,
    quotedBytes_escape hescape, h, map_bytesOf, htext]

/-- The first half of a pair: what stands behind it decides. -/
theorem IsFound.pair {ending : Ending} {rest : List UInt8} {a b c d : HexDigit} {l : Literal}
    (hleading : isLeading (unitOf a b c d) = true) (htail : IsFound ending rest l.tail) :
    IsFound ending rest (.code a b c d :: l) := by
  have hhalf : text? (.code a b c d :: l) = textFrom? (some (unitOf a b c d)) l := by
    have htrailing := isTrailing_of_isLeading hleading
    simp [text?, textFrom?, htrailing, hleading]
  rw [IsFound, hhalf, utf8_body_cons]
  cases l with
  | nil => exact quotedBytes_leading_error (unicodeEscape_leading ending hleading (by decide) rest)
  | cons p l =>
    rw [utf8_body_cons]
    cases p with
    | plain c' h =>
      obtain ⟨first, u, hbytes, hfirst⟩ : ∃ first u, String.utf8EncodeChar c' = first :: u
          ∧ Reader.sign first ≠ '\\' := by
        obtain ⟨first, u, hbytes⟩ := List.exists_cons_of_ne_nil (String.utf8EncodeChar_ne_nil)
        exact ⟨first, u, hbytes, (isPlainByte_of_mem h (by simp [hbytes])).2.2⟩
      rw [Piece.written, Text.utf8_cons, Text.utf8_nil, List.append_nil, hbytes]
      exact quotedBytes_leading_error (unicodeEscape_leading ending hleading hfirst _)
    | short c' h =>
      obtain ⟨hascii, hletter⟩ := ascii_of_shortEscape? h
      rw [Piece.written, utf8_cons_ascii (by decide), utf8_cons_ascii hascii, Text.utf8_nil]
      refine quotedBytes_leading_error (unicodeEscape_leading_short ending hleading ?_ _)
      rwa [sign_ofNat hascii]
    | code a' b' c' d' =>
      by_cases hpair : isTrailing (unitOf a' b' c' d') = true
      · have htext : textFrom? (some (unitOf a b c d)) (.code a' b' c' d' :: l)
            = (pairChar (unitOf a b c d) (unitOf a' b' c' d') :: ·) <$> text? l := by
          simp [textFrom?, hpair, text?]
        let code := UInt8.ofNat 'u'.toNat :: (utf8 [a.val, b.val, c.val, d.val]
          ++ utf8 (Piece.written (.code a' b' c' d')))
        have hescape : ∀ bytes, escape ending (code ++ bytes)
            = .ok (pairChar (unitOf a b c d) (unitOf a' b' c' d'), code.length) := by
          intro bytes
          have hlength : code.length = 11 := by
            simp only [code, utf8_code, Piece.written]
            rw [utf8_cons_ascii (by decide), utf8_cons_ascii (by decide), utf8_code]
            rfl
          rw [List.cons_append, List.append_assoc, escape_code, unicodeEscape_pair ending hleading,
            if_pos hpair, hlength]
          rfl
        have hfound : quotedBytes ending 0 (utf8 (body l) ++ rest) = bytesOf (text? l) rest := htail
        rw [utf8_written_code, ← List.append_assoc, ← List.cons_append, ← List.cons_append,
          quotedBytes_escape hescape, hfound, map_bytesOf, htext]
      · refine (quotedBytes_leading_error ?_).trans ?_
        · rw [unicodeEscape_pair ending hleading, if_neg hpair]
        · simp [textFrom?, hpair, bytesOf]

/-- Behind the opening quote of a literal the reader finds the bytes of the text that it means. -/
theorem quotedBytes_body (ending : Ending) (rest : List UInt8) (l : Literal) :
    quotedBytes ending 0 (utf8 (body l) ++ rest) = bytesOf (text? l) rest := by
  -- A pair takes two pieces at once, so what is behind the next piece is carried along.
  have hboth : IsFound ending rest l ∧ IsFound ending rest l.tail := by
    induction l with
    | nil => exact ⟨rfl, rfl⟩
    | cons p l ih =>
      obtain ⟨hfound, htail⟩ := ih
      refine ⟨?_, hfound⟩
      cases p with
      | plain c h => exact .plain hfound
      | short c h => exact .short hfound
      | code a b c d =>
        by_cases htrailing : isTrailing (unitOf a b c d) = true
        · have htext : text? (.code a b c d :: l) = none := by simp [text?, textFrom?, htrailing]
          rw [IsFound, utf8_body_cons,
            quotedBytes_leading_error (unicodeEscape_trailing ending htrailing _), htext]
          rfl
        by_cases hleading : isLeading (unitOf a b c d) = true
        · exact .pair hleading htail
        · exact .single htrailing hleading hfound
  exact hboth.1

/-! ## Passing over texts -/

theorem skipQuoted_plain (ending : Ending) {u : List UInt8} (hu : ∀ b ∈ u, IsPlainByte b)
    (rest : List UInt8) : skipQuoted ending 0 (u ++ rest) = skipQuoted ending 0 rest := by
  induction u with
  | nil => rfl
  | cons b u ih =>
    obtain ⟨hcontrol, hquote, hslash⟩ := hu b (by simp)
    have hle : ¬ b < 0x20 := by
      rw [UInt8.lt_iff_toNat_lt]
      exact Nat.not_lt_of_le hcontrol
    rw [List.cons_append, skipQuoted, if_neg hquote, if_neg hslash, if_neg hle,
      ih fun x hx => hu x (List.mem_cons_of_mem _ hx)]

theorem skipQuoted_escape {ending : Ending} {u : List UInt8}
    (h : ∀ rest, escapeSize ending (u ++ rest) = .ok u.length) (rest : List UInt8) :
    skipQuoted ending 0 (.ofNat '\\'.toNat :: u ++ rest) = skipQuoted ending 0 rest := by
  have hskip : ∀ v : List UInt8, skipQuoted ending v.length (v ++ rest)
      = skipQuoted ending 0 rest := by
    intro v
    induction v with
    | nil => rfl
    | cons b v ih => exact ih
  have hquote : Reader.sign (.ofNat '\\'.toNat) ≠ '"' := by decide
  have hslash : Reader.sign (.ofNat '\\'.toNat) = '\\' := by decide
  rw [List.cons_append, skipQuoted, if_neg hquote, if_pos hslash, h rest]
  exact hskip u

/-- A piece is passed over, whatever it means. -/
theorem skipQuoted_piece (ending : Ending) (p : Piece) (rest : List UInt8) :
    skipQuoted ending 0 (utf8 p.written ++ rest) = skipQuoted ending 0 rest := by
  cases p with
  | plain c h =>
    rw [Piece.written, Text.utf8_cons, Text.utf8_nil, List.append_nil]
    exact skipQuoted_plain ending (fun b hb => isPlainByte_of_mem h hb) rest
  | short c h =>
    obtain ⟨hascii, hletter⟩ := ascii_of_shortEscape? h
    have hsize : ∀ rest, escapeSize ending ([.ofNat c.toNat] ++ rest) = .ok 1 := by
      intro rest
      rw [List.singleton_append, escapeSize, sign_ofNat hascii, if_neg hletter, if_pos h]
    rw [Piece.written, utf8_cons_ascii (by decide), utf8_cons_ascii hascii, Text.utf8_nil]
    exact skipQuoted_escape hsize rest
  | code a b c d =>
    have hmark : Reader.sign (.ofNat 'u'.toNat) = 'u' := by decide
    have hsize : ∀ rest, escapeSize ending
        (.ofNat 'u'.toNat :: utf8 [a.val, b.val, c.val, d.val] ++ rest) = .ok 5 := by
      intro rest
      rw [List.cons_append, escapeSize, if_pos hmark, fourHex_code]
      rfl
    have hlength : (UInt8.ofNat 'u'.toNat :: utf8 [a.val, b.val, c.val, d.val]).length = 5 := by
      rw [utf8_code]
      rfl
    rw [utf8_written_code, ← List.cons_append, ← List.cons_append]
    exact skipQuoted_escape (fun rest => hlength.symm ▸ hsize rest) rest

theorem skipQuoted_body (ending : Ending) (l : Literal) (rest : List UInt8) :
    skipQuoted ending 0 (utf8 (body l) ++ rest) = .ok rest := by
  induction l with
  | nil => rfl
  | cons p l ih => rw [utf8_body_cons, skipQuoted_piece, ih]

end Literal

/-- **A literal is read as the text that it means**, and is malformed if it means none. -/
theorem quotedText_settles (l : Literal) : Settles quotedText l.body l.read := by
  intro ending rest _
  simp only [quotedText, Literal.quotedBytes_body, Literal.read]
  cases l.text? with
  | none => rfl
  | some t => simp [Literal.bytesOf, Text.ofUtf8?_utf8, Except.map]

/-- A literal is passed over in any case. -/
theorem skipText_takes (l : Literal) : Takes skipText l.body () := by
  intro ending rest
  rw [skipText, Literal.skipQuoted_body]
  rfl

/-! ## Numbers -/

/-- A reader that settles a text, whatever it makes of it. -/
def IsSettled (r : Reader α) (t : Text) : Prop := ∃ o, Settles r t o

theorem Settles.isSettled {r : Reader α} {t : Text} {o : Except Fault α} (h : Settles r t o) :
    IsSettled r t := ⟨o, h⟩

theorem Steps.isSettled {x : Reader α} {f : α → Reader β} {t u : Text} {a : α}
    (hx : Steps x t u a) (hf : IsSettled (f a) u) : IsSettled (x >>= f) t := by
  obtain ⟨o, ho⟩ := hf
  exact ⟨o, hx.bind ho⟩

theorem IsSettled.map {x : Reader α} {t : Text} (h : IsSettled x t) (f : α → β) :
    IsSettled (f <$> x) t := by
  obtain ⟨o, ho⟩ := h
  exact ⟨_, ho.map f⟩

/-- A look behind the number leaves everything as it is. -/
theorem isSettled_peek? {f : Option Char → Reader β} {o : Except Fault β}
    (hf : ∀ mark, Settles (f mark) [] o) : Settles (Reader.peek? >>= f) [] o := by
  intro ending rest hstop
  obtain ⟨mark, hpeek, -⟩ := hstop.peek?
  rw [Text.utf8_nil, List.nil_append, Reader.bind_eq hpeek]
  exact hf mark ending rest hstop

/-- Digits are taken up to a sign that is none. -/
theorem takeDigits_steps {ds u : Text} (hds : ∀ c ∈ ds, c.isDigit = true)
    (hu : ∀ c ∈ u.head?, c.toNat < 0x80 ∧ c.isDigit = false) :
    Steps takeDigits (ds ++ u) u (ds.map fun c => c.toNat - 48) := by
  intro ending rest hstop
  cases u with
  | nil =>
    rw [List.append_nil]
    exact takeDigits_eq hds hstop
  | cons c u =>
    obtain ⟨hascii, hdigit⟩ := hu c rfl
    rw [Text.utf8_append, List.append_assoc]
    refine takeDigits_append hds fun b hb => ?_
    rw [utf8_cons_ascii hascii] at hb
    obtain rfl := Option.some.inj hb
    rwa [isDigitByte, sign_ofNat hascii]

theorem isSettled_double (negative : Bool) (significand : Nat) (e : Int) :
    IsSettled (double negative significand e) [] := by
  unfold double
  split
  · exact (settles_pure _).isSettled
  · exact (settles_fail _ _).isSettled

namespace Exponent

/-- An exponent behind its letter. -/
def behindMark (e : Exponent) : Text := (e.sign.map Subtype.val).toList ++ e.digits.val

theorem mark_ascii (e : Exponent) : e.mark.val.toNat < 0x80 := by
  rcases e.mark.property with h | h <;> rw [h] <;> decide

theorem mark_not_isDigit (e : Exponent) : e.mark.val.isDigit = false := by
  rcases e.mark.property with h | h <;> rw [h] <;> decide

theorem exists_cons_digits (ds : Digits) :
    ∃ c t, ds.val = c :: t ∧ c.isDigit = true ∧ ∀ d ∈ t, d.isDigit = true := by
  obtain ⟨c, t, hcons⟩ := List.exists_cons_of_ne_nil ds.property.1
  have hdigits := ds.property.2
  rw [hcons] at hdigits
  exact ⟨c, t, hcons, hdigits c List.mem_cons_self, fun d hd => hdigits d (List.mem_cons_of_mem c hd)⟩

/-- The sign of an exponent is taken, if it has one. -/
theorem takeSign_steps (e : Exponent) : ∃ down, Steps takeSign e.behindMark e.digits.val down := by
  obtain ⟨c, t, hcons, hc, -⟩ := exists_cons_digits e.digits
  rw [behindMark]
  cases hsign : e.sign with
  | none =>
    have hplus : some c ≠ some '+' := fun h => absurd hc (by rw [Option.some.inj h]; decide)
    have hminus : some c ≠ some '-' := fun h => absurd hc (by rw [Option.some.inj h]; decide)
    refine ⟨false, ?_⟩
    rw [Option.map_none, Option.toList_none, List.nil_append, hcons]
    refine (peek?_steps (digit_ascii hc) t).trans ?_
    simp only [hplus, hminus, decide_false, Bool.or_self, Bool.false_eq_true, if_false]
    exact fun _ _ _ => rfl
  | some sign =>
    have hascii : sign.val.toNat < 0x80 := by
      rcases sign.property with h | h <;> rw [h] <;> decide
    have hmark : (some sign.val = some '+' || some sign.val = some '-') = true := by
      rcases sign.property with h | h <;> simp [h]
    refine ⟨decide (some sign.val = some '-'), ?_⟩
    refine (peek?_steps hascii e.digits.val).trans ?_
    rw [if_pos hmark]
    exact (advance_steps hascii e.digits.val).trans fun _ _ _ => rfl

theorem takeExponent_steps (ds : Digits) : ∃ n, Steps takeExponent ds.val [] n := by
  obtain ⟨c, t, hcons, hc, ht⟩ := exists_cons_digits ds
  have htake := takeDigits_steps (u := []) ht (by simp)
  rw [List.append_nil] at htake
  refine ⟨(t.map fun c => c.toNat - 48).foldl (fun n d => 10 * n + d) (c.toNat - 48), ?_⟩
  rw [hcons]
  refine ((Reader.next_takes (digit_ascii hc)).steps t).trans ?_
  rw [if_pos hc]
  exact htake.trans fun _ _ _ => rfl

/-- An exponent is settled behind its letter: the look at what follows it changes nothing. -/
theorem isSettled_exponentOf (e : Exponent) (negative : Bool) (significand : Nat) (start : Int) :
    IsSettled (exponentOf negative significand start) e.behindMark := by
  obtain ⟨down, hsign⟩ := e.takeSign_steps
  obtain ⟨n, hdigits⟩ := takeExponent_steps e.digits
  refine hsign.isSettled (hdigits.isSettled ?_)
  split
  · obtain ⟨o, ho⟩ := isSettled_double negative significand
      (if down = true then start - n else start + n)
    exact (isSettled_peek? fun _ => ho).isSettled
  · split
    · exact (settles_fail _ _).isSettled
    · exact (isSettled_peek? fun _ => settles_pure _).isSettled

end Exponent

namespace NumberLiteral

variable (n : NumberLiteral)

/-- What follows the digits of a number is no digit. -/
theorem head?_tail : ∀ c ∈ n.tail.head?, c.toNat < 0x80 ∧ c.isDigit = false := by
  rw [tail]
  cases n.exponent with
  | none => simp
  | some e =>
    rintro c ⟨⟩
    exact ⟨e.mark_ascii, e.mark_not_isDigit⟩

theorem head?_behind : ∀ c ∈ n.behind.head?, c.toNat < 0x80 ∧ c.isDigit = false := by
  rw [behind]
  cases n.fraction with
  | none => exact n.head?_tail
  | some ds =>
    rintro c ⟨⟩
    decide

/-- The letter of an exponent is taken, if there is one. -/
theorem takeExponentMark_none {ending : Ending} {rest : List UInt8} (hstop : Stops ending rest) :
    takeExponentMark ending rest = .ok (false, rest) := by
  obtain ⟨mark, hpeek, hnot⟩ := hstop.peek?
  rw [takeExponentMark, Reader.bind_eq hpeek]
  simp [hnot 'e' (by decide), hnot 'E' (by decide), Reader.pure_eq]

theorem takeExponentMark_some (e : Exponent) :
    Steps takeExponentMark e.written e.behindMark true := by
  have hmark : (some e.mark.val = some 'e' || some e.mark.val = some 'E') = true := by
    rcases e.mark.property with h | h <;> simp [h]
  refine (peek?_steps e.mark_ascii e.behindMark).trans ?_
  rw [if_pos hmark]
  exact (advance_steps e.mark_ascii e.behindMark).trans fun _ _ _ => rfl

theorem isSettled_scaledOf (negative : Bool) (significand : Nat) (start : Int) :
    IsSettled (scaledOf negative significand start) n.tail := by
  rw [tail]
  cases n.exponent with
  | none =>
    have hmark : Steps takeExponentMark [] [] false := fun _ _ hstop => takeExponentMark_none hstop
    exact hmark.isSettled (isSettled_double negative significand start)
  | some e =>
    exact (takeExponentMark_some e).isSettled (e.isSettled_exponentOf negative significand start)

theorem isSettled_fractionOf (ds : Digits) (negative : Bool) (significand : Nat) (start : Int) :
    IsSettled (fractionOf negative significand start) (ds.val ++ n.tail) := by
  refine (takeDigits_steps ds.property.2 n.head?_tail).isSettled ?_
  rw [if_neg (by simp [ds.property.1])]
  exact n.isSettled_scaledOf _ _ _

/-- Behind its digits a number goes on with a fraction or an exponent, or ends. -/
theorem isSettled_restOf (negative : Bool) (significand left : Nat) :
    IsSettled (restOf negative significand left) n.behind := by
  rw [behind]
  cases n.fraction with
  | some ds =>
    refine (peek?_steps (by decide) (ds.val ++ n.tail)).isSettled ?_
    rw [if_pos rfl]
    refine (advance_steps (by decide) (ds.val ++ n.tail)).isSettled ?_
    exact (n.isSettled_fractionOf ds _ _ _).map _
  | none =>
    rw [Option.map_none, Option.getD_none, List.nil_append, tail]
    cases n.exponent with
    | some e =>
      have hpoint : some e.mark.val ≠ some '.' := by
        rcases e.mark.property with h | h <;> simp [h]
      have hmark : (some e.mark.val = some 'e' || some e.mark.val = some 'E') = true := by
        rcases e.mark.property with h | h <;> simp [h]
      refine (peek?_steps e.mark_ascii e.behindMark).isSettled ?_
      rw [if_neg hpoint, if_pos hmark]
      refine (advance_steps e.mark_ascii e.behindMark).isSettled ?_
      exact (e.isSettled_exponentOf _ _ _).map _
    | none =>
      -- Whatever ends the number is no sign that continues it.
      obtain ⟨o, ho⟩ : IsSettled (if left = 0 then pure (Json.whole negative significand)
          else Number.floating <$> double negative significand left) [] := by
        split
        · exact (settles_pure _).isSettled
        · exact (isSettled_double negative significand left).map _
      refine ⟨o, fun ending rest hstop => ?_⟩
      obtain ⟨mark, hpeek, hnot⟩ := hstop.peek?
      have hend := ho ending rest hstop
      simp only [Option.map_none, Option.getD_none, Text.utf8_nil, List.nil_append] at hend ⊢
      rw [restOf, Reader.bind_eq hpeek, ← hend]
      simp [hnot '.' (by decide), hnot 'e' (by decide), hnot 'E' (by decide)]

/-- The first digit of a number, and the others. -/
theorem exists_cons_whole : ∃ c t, n.whole.val = c :: t ∧ c.isDigit = true
    ∧ (∀ d ∈ t, d.isDigit = true) ∧ (c = '0' → t = []) := by
  obtain ⟨c, t, hcons⟩ := List.exists_cons_of_ne_nil n.whole.property.ne_nil
  have hdigits := n.whole.property.isDigit
  have hzero := n.whole.property.eq_zero
  rw [hcons] at hdigits hzero
  refine ⟨c, t, hcons, hdigits c List.mem_cons_self,
    fun d hd => hdigits d (List.mem_cons_of_mem c hd), ?_⟩
  rintro rfl
  exact (List.cons.inj (hzero rfl)).2

theorem isSettled_readNumber (negative : Bool) : IsSettled (readNumber negative) n.unsigned := by
  obtain ⟨c, t, hcons, hc, ht, hzero⟩ := n.exists_cons_whole
  rw [unsigned, hcons]
  refine ((Reader.next_takes (digit_ascii hc)).steps (t ++ n.behind)).isSettled ?_
  rw [if_pos hc]
  refine (takeDigits_steps ht n.head?_behind).isSettled ?_
  have hshort : (c = '0' && !(t.map fun c => c.toNat - 48).isEmpty) = false := by
    by_cases hhead : c = '0'
    · simp [hzero hhead]
    · simp [hhead]
  rw [hshort]
  exact n.isSettled_restOf _ _ _

/-- What a number is read as. -/
def read : Except Fault Number :=
  (readNumber n.negative .complete (utf8 n.unsigned)).map (·.1)

end NumberLiteral

/-- **What a number is read as does not depend on what is behind it.** -/
theorem readNumber_settles (n : NumberLiteral) :
    Settles (readNumber n.negative) n.unsigned n.read := by
  obtain ⟨o, ho⟩ := n.isSettled_readNumber n.negative
  have halone := ho.eq_alone
  rw [NumberLiteral.read, ← halone]
  exact ho

/-! ## Passing over numbers -/

/-- Digits are passed over, if there is one. -/
theorem skipDigits_steps (ds : Digits) {u : Text}
    (hu : ∀ c ∈ u.head?, c.toNat < 0x80 ∧ c.isDigit = false) :
    Steps skipDigits (ds.val ++ u) u () := by
  refine (takeDigits_steps ds.property.2 hu).trans ?_
  rw [if_neg (by simp [ds.property.1])]
  exact fun _ _ _ => rfl

theorem skipExponent_steps (n : NumberLiteral) : Steps skipExponent n.tail [] () := by
  rw [NumberLiteral.tail]
  cases n.exponent with
  | none =>
    have hmark : Steps takeExponentMark [] [] false :=
      fun _ _ hstop => NumberLiteral.takeExponentMark_none hstop
    refine hmark.trans ?_
    exact fun _ _ _ => rfl
  | some e =>
    obtain ⟨down, hsign⟩ := e.takeSign_steps
    have hdigits := skipDigits_steps e.digits (u := []) (by simp)
    rw [List.append_nil] at hdigits
    refine (NumberLiteral.takeExponentMark_some e).trans ?_
    refine hsign.trans (hdigits.trans ?_)
    intro ending rest hstop
    obtain ⟨mark, hpeek, -⟩ := hstop.peek?
    rw [Text.utf8_nil, List.nil_append, Reader.bind_eq hpeek]
    rfl

theorem skipFraction_steps (n : NumberLiteral) : Steps skipFraction n.behind n.tail () := by
  rw [NumberLiteral.behind]
  cases n.fraction with
  | some ds =>
    refine (peek?_steps (by decide) (ds.val ++ n.tail)).trans ?_
    rw [if_pos rfl]
    exact (advance_steps (by decide) (ds.val ++ n.tail)).trans (skipDigits_steps ds n.head?_tail)
  | none =>
    rw [Option.map_none, Option.getD_none, List.nil_append, NumberLiteral.tail]
    cases n.exponent with
    | some e =>
      have hpoint : some e.mark.val ≠ some '.' := by
        rcases e.mark.property with h | h <;> simp [h]
      refine (peek?_steps e.mark_ascii e.behindMark).trans ?_
      rw [if_neg hpoint]
      exact fun _ _ _ => rfl
    | none =>
      intro ending rest hstop
      obtain ⟨mark, hpeek, hnot⟩ := hstop.peek?
      rw [skipFraction]
      simp only [Option.map_none, Option.getD_none, Text.utf8_nil, List.nil_append]
      rw [Reader.bind_eq hpeek, if_neg (hnot '.' (by decide))]
      rfl

/-- A number is passed over in any case. -/
theorem skipNumber_reads (n : NumberLiteral) : Reads skipNumber n.unsigned () := by
  obtain ⟨c, t, hcons, hc, ht, hzero⟩ := n.exists_cons_whole
  have hdigits : ∀ d ∈ c :: t, d.isDigit = true := List.forall_mem_cons.mpr ⟨hc, ht⟩
  have hlead : (((c :: t).map (fun c => c.toNat - 48)).isEmpty
      || (some c = some '0' && 1 < ((c :: t).map fun c => c.toNat - 48).length)) = false := by
    by_cases hhead : c = '0'
    · simp [hzero hhead]
    · simp [hhead]
  rw [NumberLiteral.unsigned, hcons]
  refine Steps.reads ((peek?_steps (digit_ascii hc) (t ++ n.behind)).trans ?_)
  refine (takeDigits_steps hdigits n.head?_behind).trans ?_
  rw [hlead]
  exact (skipFraction_steps n).trans (skipExponent_steps n)

end Gazetteer.Json
