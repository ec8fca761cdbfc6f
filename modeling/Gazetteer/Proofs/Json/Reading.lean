/-
# Gazetteer.Proofs.Json.Reading -- what a reader does at the front of a text

A reader is known by the texts that it takes off the front of a stream, and by what it makes of
them. `Takes` says so whatever comes behind. A number goes on as long as there are digits, so what
is read up to its end needs something behind it that ends a number: `Reads` asks for that.

White space may stand in front of every sign that a reader looks for.
-/
import Gazetteer.Json.Reader
import Gazetteer.Proofs.Text.Utf8

namespace Gazetteer.Json

open Storage (Ending)
open Text (utf8)

/-! ## Signs of JSON -/

/-- White space between the parts of a JSON text. -/
def IsSpace (w : Text) : Prop := ∀ c ∈ w, c ∈ [' ', '\n', '\t', '\r']

instance : DecidablePred IsSpace := fun w => List.decidableBAll _ w

theorem isSpace_nil : IsSpace [] := by decide

/-- An ASCII character that is no white space. -/
structure IsSign (c : Char) : Prop where
  isAscii : c.toNat < 0x80
  notSpace : c ∉ [' ', '\n', '\t', '\r']

instance (c : Char) : Decidable (IsSign c) :=
  decidable_of_iff (c.toNat < 0x80 ∧ c ∉ [' ', '\n', '\t', '\r'])
    ⟨fun ⟨h₁, h₂⟩ => ⟨h₁, h₂⟩, fun h => ⟨h.1, h.2⟩⟩

/-- A digit, or a sign that continues a number behind its digits. -/
def continuesNumber (c : Char) : Bool := c.isDigit || c == '.' || c == 'e' || c == 'E'

/-- What ends a number: the end of a complete stream, or a byte that continues no number. -/
def Stops (ending : Ending) : List UInt8 → Prop
  | [] => ending = .complete
  | b :: _ => continuesNumber (Reader.sign b) = false

theorem utf8_cons_ascii {c : Char} (h : c.toNat < 0x80) (t : Text) :
    utf8 (c :: t) = .ofNat c.toNat :: utf8 t := by
  rw [Text.utf8_cons, Text.utf8EncodeChar_one h]
  rfl

theorem sign_ofNat {c : Char} (h : c.toNat < 0x80) : Reader.sign (.ofNat c.toNat) = c := by
  rw [Reader.sign, Text.toNat_byte (by omega), Char.ofNat_toNat]

theorem toNat_sign (b : UInt8) : (Reader.sign b).toNat = b.toNat := by
  have hlt : b.toNat < 256 := b.toNat_lt
  have hvalid : b.toNat.isValidChar := Or.inl (by omega)
  rw [Reader.sign, Char.ofNat, dif_pos hvalid]
  rfl

theorem stops_sign {c : Char} (hc : c.toNat < 0x80) (hstop : continuesNumber c = false)
    (ending : Ending) (t : Text) (rest : List UInt8) :
    Stops ending (utf8 (c :: t) ++ rest) := by
  rw [utf8_cons_ascii hc]
  show continuesNumber (Reader.sign (.ofNat c.toNat)) = false
  rwa [sign_ofNat hc]

/-! ## Reading and taking -/

variable {α β : Type}

/-- The reader takes a text off the front of every stream and makes a value of it. -/
def Takes (r : Reader α) (t : Text) (a : α) : Prop :=
  ∀ ending rest, r ending (utf8 t ++ rest) = .ok (a, rest)

/-- The reader takes a text off the front, if what is behind it ends a number. -/
def Reads (r : Reader α) (t : Text) (a : α) : Prop :=
  ∀ ending rest, Stops ending rest → r ending (utf8 t ++ rest) = .ok (a, rest)

theorem Takes.reads {r : Reader α} {t : Text} {a : α} (h : Takes r t a) : Reads r t a :=
  fun ending rest _ => h ending rest

namespace Reader

variable {ending : Ending} {bytes rest : List UInt8}

theorem bind_eq {x : Reader α} {a : α} (h : x ending bytes = .ok (a, rest)) (f : α → Reader β) :
    (x >>= f) ending bytes = f a ending rest := by
  show (x ending bytes >>= fun p => f p.1 ending p.2) = f a ending rest
  rw [h]
  rfl

theorem map_eq {x : Reader α} {a : α} (h : x ending bytes = .ok (a, rest)) (f : α → β) :
    (f <$> x) ending bytes = .ok (f a, rest) := by
  show (x ending bytes >>= fun p => pure (f p.1, p.2)) = .ok (f a, rest)
  rw [h]
  rfl

/-- A fault ends what was to follow. -/
theorem bind_error {x : Reader α} {fault : Fault} (h : x ending bytes = .error fault)
    (f : α → Reader β) : (x >>= f) ending bytes = .error fault := by
  show (x ending bytes >>= fun p => f p.1 ending p.2) = .error fault
  rw [h]
  rfl

theorem map_error {x : Reader α} {fault : Fault} (h : x ending bytes = .error fault) (f : α → β) :
    (f <$> x) ending bytes = .error fault :=
  bind_error h fun a => pure (f a)

theorem pure_eq (a : α) : (pure a : Reader α) ending bytes = .ok (a, bytes) := rfl

end Reader

theorem Reads.map {r : Reader α} {t : Text} {a : α} (h : Reads r t a) (f : α → β) :
    Reads (f <$> r) t (f a) :=
  fun ending rest hstop => Reader.map_eq (h ending rest hstop) f

theorem Takes.bind {x : Reader α} {f : α → Reader β} {s t : Text} {a : α} {b : β}
    (hx : Takes x s a) (hf : Takes (f a) t b) : Takes (x >>= f) (s ++ t) b := by
  intro ending rest
  rw [Text.utf8_append, List.append_assoc, Reader.bind_eq (hx ending _)]
  exact hf ending rest

theorem Takes.bind_reads {x : Reader α} {f : α → Reader β} {s t : Text} {a : α} {b : β}
    (hx : Takes x s a) (hf : Reads (f a) t b) : Reads (x >>= f) (s ++ t) b := by
  intro ending rest hstop
  rw [Text.utf8_append, List.append_assoc, Reader.bind_eq (hx ending _)]
  exact hf ending rest hstop

/-! ## Signs behind white space -/

/-- White space is one byte. -/
theorem isSpace_of_mem {c : Char} (h : c ∈ [' ', '\n', '\t', '\r']) :
    c.toNat < 0x80 ∧ Reader.isSpace (.ofNat c.toNat) = true := by
  simp only [List.mem_cons, List.not_mem_nil, or_false] at h
  rcases h with rfl | rfl | rfl | rfl <;> decide

theorem IsSign.isSpace_eq_false {c : Char} (h : IsSign c) :
    Reader.isSpace (.ofNat c.toNat) = false := by
  have hmem : ∀ b, Reader.isSpace b = true → Reader.sign b ∈ [' ', '\n', '\t', '\r'] := by
    intro b hb
    simp only [Reader.isSpace, Bool.or_eq_true, beq_iff_eq] at hb
    rcases hb with ((rfl | rfl) | rfl) | rfl <;> decide
  rw [Bool.eq_false_iff]
  intro hspace
  have hsign := hmem _ hspace
  rw [sign_ofNat h.isAscii] at hsign
  exact h.notSpace hsign

namespace Reader

theorem dropWhile_space {w : Text} (hw : IsSpace w) (bytes : List UInt8) :
    (utf8 w ++ bytes).dropWhile isSpace = bytes.dropWhile isSpace := by
  refine List.dropWhile_append_of_pos fun b hb => ?_
  obtain ⟨c, hc, hb⟩ := List.mem_flatMap.mp hb
  obtain ⟨hascii, hspace⟩ := isSpace_of_mem (hw c hc)
  rw [Text.utf8EncodeChar_one hascii] at hb
  rwa [List.mem_singleton.mp hb]

/-- The next sign is found behind white space, and stays. -/
theorem token_eq {w : Text} (hw : IsSpace w) {c : Char} (hc : IsSign c) (ending : Ending)
    (t : Text) (rest : List UInt8) :
    token ending (utf8 (w ++ c :: t) ++ rest) = .ok (c, utf8 (c :: t) ++ rest) := by
  have hskip : (utf8 (w ++ c :: t) ++ rest).dropWhile isSpace = utf8 (c :: t) ++ rest := by
    rw [Text.utf8_append, List.append_assoc, dropWhile_space hw, utf8_cons_ascii hc.isAscii,
      List.cons_append, List.dropWhile_cons_of_neg (by simp [hc.isSpace_eq_false])]
  show peek ending ((utf8 (w ++ c :: t) ++ rest).dropWhile isSpace) = _
  rw [hskip, utf8_cons_ascii hc.isAscii, List.cons_append]
  show Except.ok (sign (.ofNat c.toNat), _) = _
  rw [sign_ofNat hc.isAscii]

theorem advance_eq {c : Char} (hc : c.toNat < 0x80) (ending : Ending) (t : Text)
    (rest : List UInt8) : advance ending (utf8 (c :: t) ++ rest) = .ok ((), utf8 t ++ rest) := by
  rw [utf8_cons_ascii hc]
  rfl

theorem advance_takes {c : Char} (hc : c.toNat < 0x80) : Takes advance [c] () :=
  fun ending rest => advance_eq hc ending [] rest

theorem next_takes {c : Char} (hc : c.toNat < 0x80) : Takes next [c] c := by
  intro ending rest
  rw [utf8_cons_ascii hc]
  show Except.ok (sign (.ofNat c.toNat), rest) = .ok (c, rest)
  rw [sign_ofNat hc]

/-- A word is taken if it stands there. -/
theorem word_takes {t : Text} (ht : ∀ c ∈ t, c.toNat < 0x80) : Takes (word t) t () := by
  induction t with
  | nil => exact fun ending rest => rfl
  | cons c t ih =>
    have hc : c.toNat < 0x80 := ht c (by simp)
    refine (next_takes hc).bind (s := [c]) ?_
    rw [if_pos rfl]
    exact ih fun d hd => ht d (List.mem_cons_of_mem _ hd)

/-- What a reader does is settled by the sign it finds first. -/
theorem token_bind_takes {f : Char → Reader β} {w t : Text} {c : Char} {b : β} (hw : IsSpace w)
    (hc : IsSign c) (hf : Takes (f c) (c :: t) b) : Takes (token >>= f) (w ++ c :: t) b := by
  intro ending rest
  rw [bind_eq (token_eq hw hc ending t rest)]
  exact hf ending rest

theorem token_bind_reads {f : Char → Reader β} {w t : Text} {c : Char} {b : β} (hw : IsSpace w)
    (hc : IsSign c) (hf : Reads (f c) (c :: t) b) : Reads (token >>= f) (w ++ c :: t) b := by
  intro ending rest hstop
  rw [bind_eq (token_eq hw hc ending t rest)]
  exact hf ending rest hstop

theorem colon_takes {w : Text} (hw : IsSpace w) : Takes colon (w ++ [':']) () := by
  refine token_bind_takes hw (by decide) ?_
  rw [if_pos rfl]
  exact advance_takes (by decide)

/-- Nothing but white space is left. -/
theorem finish_eq {w : Text} (hw : IsSpace w) : finish .complete (utf8 w) = .ok ((), []) := by
  have hskip : (utf8 w).dropWhile isSpace = [] := by
    have hdrop := dropWhile_space hw []
    rwa [List.append_nil] at hdrop
  have htaken : skipSpace .complete (utf8 w) = .ok ((), []) := by
    rw [skipSpace, hskip]
  rw [finish, bind_eq htaken]
  rfl

end Reader

end Gazetteer.Json
