/-
# Gazetteer.Proofs.Json.Tracking -- reading a beginning of some bytes

A reader that is given only the beginning of some bytes does on it what it does on all of them, up
to where the beginning ends. Either it is done before that, with the same value, or it comes to the
end and tells the fault of that end. It never makes something else of what it has: not of half a
word, of an escape without its digits, nor of the first bytes of a character.

`Tracks` says so for the bytes of one run. A reader that has looked at the first byte before may
rely on it, so the relation counts the bytes that must be there before and that are there
afterwards.
-/
import Gazetteer.Proofs.Json.Quoted

namespace Gazetteer.Json

open Storage (Ending)
open Text (utf8)

variable {α β : Type} {ending ending' : Ending} {u v w cut missing : List UInt8} {a : α} {b : β}

/-! ## Binding -/

namespace Reader

theorem of_bind_eq_ok {x : Reader α} {f : α → Reader β} (h : (x >>= f) ending u = .ok (b, w)) :
    ∃ a v, x ending u = .ok (a, v) ∧ f a ending v = .ok (b, w) := by
  cases hx : x ending u with
  | error fault => exact absurd ((bind_error hx f).symm.trans h) (by simp)
  | ok p => exact ⟨p.1, p.2, rfl, (bind_eq hx f).symm.trans h⟩

end Reader

/-! ## Tracking a run -/

/-- What comes of a beginning behind which some bytes are missing: the end is met, or the value is
there and what the beginning has of `v` is left, which is so many bytes at least. -/
def Meets (ending : Ending) (missing : List UInt8) (leaves : Nat) (a : α) (v : List UInt8)
    (outcome : Except Fault (α × List UInt8)) : Prop :=
  outcome = .error (.atEnd ending)
    ∨ ∃ left, v = left ++ missing ∧ leaves ≤ left.length ∧ outcome = .ok (a, left)

/-- The reader makes `a` of the bytes `u` and leaves `v`, and tells nothing else of a beginning of
`u`, of so many bytes at least, than that it ends. -/
def Tracks (needs leaves : Nat) (r : Reader α) (u : List UInt8) (a : α) (v : List UInt8) : Prop :=
  ∀ ending cut missing, u = cut ++ missing → needs ≤ cut.length →
    Meets ending missing leaves a v (r ending cut)

theorem Meets.bind {n m : Nat} {x : Reader α} {f : α → Reader β}
    (hx : Meets ending missing n a v (x ending cut))
    (hf : ∀ left, v = left ++ missing → n ≤ left.length →
      Meets ending missing m b w (f a ending left)) :
    Meets ending missing m b w ((x >>= f) ending cut) := by
  rcases hx with hend | ⟨left, hv, hleaves, hread⟩
  · exact .inl (Reader.bind_error hend f)
  · rw [Reader.bind_eq hread]
    exact hf left hv hleaves

theorem Meets.map {n : Nat} {r : Reader α} (h : Meets ending missing n a v (r ending cut))
    (f : α → β) : Meets ending missing n (f a) v ((f <$> r) ending cut) := by
  rcases h with hend | ⟨left, hv, hleaves, hread⟩
  · exact .inl (Reader.map_error hend f)
  · exact .inr ⟨left, hv, hleaves, Reader.map_eq hread f⟩

/-- A reader that needs nothing to be there may be given more. -/
theorem Tracks.needing {m : Nat} {r : Reader α} (h : Tracks 0 m r u a v) (n : Nat) :
    Tracks n m r u a v :=
  fun ending cut missing hu _ => h ending cut missing hu (Nat.zero_le _)

theorem Tracks.bind {n m k : Nat} {x : Reader α} {f : α → Reader β} (hx : Tracks n m x u a v)
    (hf : Tracks m k (f a) v b w) : Tracks n k (x >>= f) u b w := by
  intro ending cut missing hu hneeds
  exact (hx ending cut missing hu hneeds).bind fun left => hf ending left missing

theorem Tracks.map {n m : Nat} {r : Reader α} (h : Tracks n m r u a v) (f : α → β) :
    Tracks n m (f <$> r) u (f a) v :=
  fun ending cut missing hu hneeds => (h ending cut missing hu hneeds).map f

theorem tracks_pure (n : Nat) (a : α) (u : List UInt8) : Tracks n n (pure a : Reader α) u a u :=
  fun _ cut _ hu hneeds => .inr ⟨cut, hu, hneeds, rfl⟩

/-! ## Single bytes -/

theorem tracks_next (b : UInt8) (v : List UInt8) :
    Tracks 0 0 Reader.next (b :: v) (Reader.sign b) v := by
  intro ending cut missing hu _
  cases cut with
  | nil => exact .inl rfl
  | cons c cut =>
    rw [List.cons_append, List.cons.injEq] at hu
    obtain ⟨rfl, hv⟩ := hu
    exact .inr ⟨cut, hv, Nat.zero_le _, rfl⟩

/-- A byte that is there is passed over. -/
theorem tracks_advance (u : List UInt8) : Tracks 1 0 Reader.advance u () u.tail := by
  intro ending cut missing hu hneeds
  cases cut with
  | nil => exact absurd hneeds (by simp)
  | cons c cut =>
    refine .inr ⟨cut, ?_, Nat.zero_le _, rfl⟩
    rw [hu, List.cons_append, List.tail_cons]

/-- A sign that was found stays and is there to be looked at. -/
theorem tracks_token {c : Char} (h : Reader.token ending' u = .ok (c, v)) :
    Tracks 0 1 Reader.token u c v := by
  have htoken : ∀ ending bytes,
      Reader.token ending bytes = Reader.peek ending (bytes.dropWhile Reader.isSpace) :=
    fun _ _ => rfl
  intro ending cut missing hu _
  rw [htoken, hu, List.dropWhile_append] at h
  rw [htoken]
  cases hcut : cut.dropWhile Reader.isSpace with
  | nil => exact .inl rfl
  | cons b left =>
    rw [hcut, if_neg (by simp)] at h
    obtain ⟨rfl, rfl⟩ := Prod.mk.inj (Except.ok.inj h)
    exact .inr ⟨b :: left, rfl, by simp, rfl⟩

/-- A word is read letter by letter. -/
theorem tracks_word {t : Text} (ht : ∀ c ∈ t, c.toNat < 0x80) (v : List UInt8) :
    Tracks 0 0 (Reader.word t) (utf8 t ++ v) () v := by
  induction t with
  | nil => exact tracks_pure 0 () v
  | cons c t ih =>
    have hc : c.toNat < 0x80 := ht c (by simp)
    have hnext := tracks_next (.ofNat c.toNat) (utf8 t ++ v)
    rw [sign_ofNat hc] at hnext
    rw [utf8_cons_ascii hc, List.cons_append]
    refine hnext.bind ?_
    rw [if_pos rfl]
    exact ih fun d hd => ht d (List.mem_cons_of_mem _ hd)

/-! ## Escapes and texts -/

theorem fourHex_cut (ending : Ending) {n : Nat}
    (h : fourHex ending' (cut ++ missing) = .ok n) :
    fourHex ending cut = .error (.atEnd ending) ∨ fourHex ending cut = .ok n := by
  match cut, h with
  | [], _ => exact .inl rfl
  | [_], _ => exact .inl rfl
  | [_, _], _ => exact .inl rfl
  | [_, _, _], _ => exact .inl rfl
  | _ :: _ :: _ :: _ :: _, h => exact .inr h

/-- The digits of an escape are four bytes. -/
theorem exists_of_fourHex {n : Nat} (h : fourHex ending cut = .ok n) :
    ∃ front behind, cut = front ++ behind ∧ front.length = 4 := by
  match cut, h with
  | b₁ :: b₂ :: b₃ :: b₄ :: behind, _ => exact ⟨[b₁, b₂, b₃, b₄], behind, rfl, rfl⟩

theorem unicodeEscape_cut (ending : Ending) {p : Char × Nat}
    (h : unicodeEscape ending' (cut ++ missing) = .ok p) :
    unicodeEscape ending cut = .error (.atEnd ending) ∨ unicodeEscape ending cut = .ok p := by
  rw [unicodeEscape] at h ⊢
  cases hn : fourHex ending' (cut ++ missing) with
  | error fault => simp [hn, bind, Except.bind] at h
  | ok n =>
    rcases fourHex_cut ending hn with hend | hfour
    · exact .inl (by simp [hend, bind, Except.bind])
    obtain ⟨front, behind, rfl, hfront⟩ := exists_of_fourHex hfour
    have hdrop : (front ++ behind ++ missing).drop 4 = behind ++ missing := by
      rw [List.append_assoc, ← hfront, List.drop_left]
    have hdropCut : (front ++ behind).drop 4 = behind := by
      rw [← hfront, List.drop_left]
    simp only [hn, hfour, hdrop, hdropCut, bind, Except.bind] at h ⊢
    by_cases htrailing : isTrailing n = true
    · simp [htrailing] at h
    rw [if_neg htrailing] at h ⊢
    by_cases hsingle : (!isLeading n) = true
    · rw [if_pos hsingle] at h ⊢
      exact .inr h
    rw [if_neg hsingle] at h ⊢
    -- The second escape of a pair: its backslash, its letter and its digits.
    cases behind with
    | nil => exact .inl rfl
    | cons b behind =>
      simp only [List.cons_append] at h ⊢
      by_cases hslash : Reader.sign b ≠ '\\'
      · simp [hslash] at h
      rw [if_neg hslash] at h ⊢
      cases behind with
      | nil => exact .inl rfl
      | cons u behind =>
        simp only [List.cons_append] at h ⊢
        by_cases hletter : Reader.sign u ≠ 'u'
        · simp [hletter] at h
        rw [if_neg hletter] at h ⊢
        cases hm : fourHex ending' (behind ++ missing) with
        | error fault => simp [hm] at h
        | ok m =>
          rcases fourHex_cut ending hm with hend | hfour
          · exact .inl (by simp [hend])
          · rw [hfour]
            rw [hm] at h
            exact .inr h

theorem escape_cut (ending : Ending) {p : Char × Nat}
    (h : escape ending' (cut ++ missing) = .ok p) :
    escape ending cut = .error (.atEnd ending) ∨ escape ending cut = .ok p := by
  cases cut with
  | nil => exact .inl rfl
  | cons b cut =>
    rw [List.cons_append, escape] at h
    rw [escape]
    by_cases hletter : Reader.sign b = 'u'
    · rw [if_pos hletter] at h ⊢
      cases hu : unicodeEscape ending' (cut ++ missing) with
      | error fault => simp [hu, Except.map] at h
      | ok q =>
        rcases unicodeEscape_cut ending hu with hend | hread
        · exact .inl (by rw [hend]; rfl)
        · rw [hread]
          rw [hu] at h
          exact .inr h
    · rw [if_neg hletter] at h ⊢
      exact .inr h

theorem quotedBytes_cut (ending : Ending) {skip : Nat} {bytes : List UInt8}
    (h : quotedBytes ending' skip (cut ++ missing) = .ok (bytes, v)) :
    quotedBytes ending skip cut = .error (.atEnd ending)
      ∨ ∃ left, v = left ++ missing ∧ quotedBytes ending skip cut = .ok (bytes, left) := by
  induction cut generalizing skip bytes with
  | nil => exact .inl (by cases skip <;> rfl)
  | cons b cut ih =>
    cases skip with
    | succ skip => exact ih h
    | zero =>
      -- What follows is read as the rest of the text, behind one byte or behind one escape.
      have hgo : ∀ (skip : Nat) (front : List UInt8),
          (quotedBytes ending' skip (cut ++ missing)).map
              (fun p => (front ++ p.1, p.2)) = .ok (bytes, v) →
          (quotedBytes ending skip cut).map (fun p => (front ++ p.1, p.2))
              = .error (.atEnd ending)
            ∨ ∃ left, v = left ++ missing
              ∧ (quotedBytes ending skip cut).map (fun p => (front ++ p.1, p.2))
                = .ok (bytes, left) := by
        intro skip front hmap
        cases hrest : quotedBytes ending' skip (cut ++ missing) with
        | error fault => simp [hrest, Except.map] at hmap
        | ok p =>
          simp only [hrest, Except.map, Except.ok.injEq, Prod.mk.injEq] at hmap
          obtain ⟨rfl, rfl⟩ := hmap
          rcases ih hrest with hend | ⟨left, hleft, hread⟩
          · exact .inl (by rw [hend]; rfl)
          · exact .inr ⟨left, hleft, by rw [hread]; rfl⟩
      rw [List.cons_append, quotedBytes] at h
      rw [quotedBytes]
      by_cases hquote : Reader.sign b = '"'
      · rw [if_pos hquote] at h ⊢
        obtain ⟨rfl, rfl⟩ := Prod.mk.inj (Except.ok.inj h)
        exact .inr ⟨cut, rfl, rfl⟩
      rw [if_neg hquote] at h ⊢
      by_cases hslash : Reader.sign b = '\\'
      · rw [if_pos hslash] at h ⊢
        cases hescape : escape ending' (cut ++ missing) with
        | error fault => simp [hescape] at h
        | ok p =>
          rcases escape_cut ending hescape with hend | hread
          · exact .inl (by rw [hend])
          · rw [hescape] at h
            rw [hread]
            exact hgo _ _ h
      rw [if_neg hslash] at h ⊢
      by_cases hcontrol : b < 0x20
      · simp [hcontrol] at h
      rw [if_neg hcontrol] at h ⊢
      exact hgo _ [b] h

/-- A text that is cut is not a shorter text, whether it is cut between characters, in one of them
or in an escape. -/
theorem tracks_quotedText {t : Text} (h : quotedText ending' u = .ok (t, v)) :
    Tracks 0 0 quotedText u t v := by
  intro ending cut missing hu _
  rw [quotedText, hu] at h
  rw [quotedText]
  cases hbytes : quotedBytes ending' 0 (cut ++ missing) with
  | error fault => simp [hbytes] at h
  | ok p =>
    obtain ⟨bytes, rest⟩ := p
    simp only [hbytes] at h
    cases htext : Text.ofUtf8? bytes with
    | none => simp [htext] at h
    | some s =>
      simp only [htext, Except.ok.injEq, Prod.mk.injEq] at h
      obtain ⟨rfl, rfl⟩ := h
      rcases quotedBytes_cut ending hbytes with hend | ⟨left, hleft, hread⟩
      · exact .inl (by rw [hend])
      · exact .inr ⟨left, hleft, Nat.zero_le _, by simp only [hread, htext]⟩

end Gazetteer.Json
