/-
# Gazetteer.Proofs.Json.Skipping -- a value that nobody asked for

The walk over a value keeps its open brackets on a stack instead of calling itself. On every text of
the grammar it comes to the end of the value, with the stack as it was (`Doc.Writes.skips`), so that a
member with an unknown key is passed over whatever it holds (`skipValue_reads`). The steps of the walk
are counted against the characters of the text, since the walk is bounded by them.
-/
import Gazetteer.Proofs.Json.Literals

namespace Gazetteer.Json

open Storage (Ending)
open Text (utf8)

/-! ## Single steps -/

/-- A value that is neither list nor object is passed over by its first sign. -/
theorem skipScalar_reads {d : Doc} {u : Text} (hu : d.Writes u)
    (hscalar : ∀ items members, d ≠ .array items ∧ d ≠ .object members) :
    ∃ c t, u = c :: t ∧ IsSign c ∧ c ≠ '[' ∧ c ≠ '\x7b' ∧ Reads (skipScalar c) u () := by
  cases hu with
  | null =>
    refine ⟨'n', "ull", rfl, by decide, by decide, by decide, ?_⟩
    exact (Reader.word_takes (t := "null") (by decide)).reads
  | boolean b =>
    cases b with
    | false =>
      refine ⟨'f', "alse", rfl, by decide, by decide, by decide, ?_⟩
      exact (Reader.word_takes (t := "false") (by decide)).reads
    | true =>
      refine ⟨'t', "rue", rfl, by decide, by decide, by decide, ?_⟩
      exact (Reader.word_takes (t := "true") (by decide)).reads
  | number n =>
    have hdigits := skipNumber_reads n
    obtain ⟨c, t, hcons, hc⟩ := Doc.exists_cons_number n
    refine ⟨c, t, hcons, hc.isSign, hc.ne (by decide), hc.ne (by decide), ?_⟩
    rw [skipScalar, if_neg (hc.ne (by decide)), if_neg (hc.ne (by decide)),
      if_neg (hc.ne (by decide))]
    unfold NumberLiteral.written at hcons ⊢
    cases hsign : n.negative with
    | true =>
      rw [hsign] at hcons
      obtain ⟨rfl, -⟩ := List.cons.inj hcons
      rw [if_pos rfl]
      exact (Reader.advance_takes (by decide)).bind_reads (s := ['-']) hdigits
    | false =>
      rw [hsign] at hcons
      obtain ⟨c', t', hunsigned, hdigit⟩ := Doc.exists_cons_unsigned n
      obtain rfl : c' = c := (List.cons.inj (hunsigned.symm.trans hcons)).1
      have hminus : c' ≠ '-' := by
        rintro rfl
        exact absurd hdigit (by decide)
      rw [if_neg hminus, if_pos hdigit]
      exact hdigits
  | text l =>
    refine ⟨'"', l.body, rfl, by decide, by decide, by decide, ?_⟩
    exact (Reader.advance_takes (by decide)).bind (s := ['"']) (skipText_takes l) |>.reads
  | array _ _ => exact absurd rfl (hscalar _ []).1
  | object _ _ => exact absurd rfl (hscalar [] _).2

/-- A key is passed over with its colon. -/
theorem skipKey_takes (key : Literal) {w x : Text} (hw : IsSpace w) (hx : IsSpace x) :
    Takes skipKey (w ++ (key.written ++ (x ++ [':']))) () := by
  refine Reader.token_bind_takes hw (by decide) ?_
  rw [if_pos rfl]
  exact (Reader.advance_takes (by decide)).bind (s := ['"'])
    ((skipText_takes key).bind (Reader.colon_takes hx))

/-- Where the walk stands before an item: right behind the bracket, or behind another item. -/
def stageOf (isFirst : Bool) : Stage := if isFirst then .opened else .behind

variable {ending : Ending} {bound : Nat} {stack : List Bracket}

theorem Bracket.isSign_close (bracket : Bracket) : IsSign bracket.close := by
  cases bracket <;> decide

theorem Bracket.comma_ne_close (bracket : Bracket) : ',' ≠ bracket.close := by
  cases bracket <;> decide

/-- The closing bracket takes one step. -/
theorem skipFrom_close (isFirst : Bool) (bracket : Bracket) {w : Text} (hw : IsSpace w)
    (rest : List UInt8) :
    skipFrom ending (bound + 1) (stageOf isFirst) (bracket :: stack)
        (utf8 (w ++ [bracket.close]) ++ rest)
      = skipFrom ending bound .behind stack rest := by
  have htoken := Reader.token_eq hw bracket.isSign_close ending [] rest
  have htail : (utf8 [bracket.close] ++ rest).tail = rest := by
    rw [utf8_cons_ascii bracket.isSign_close.isAscii]
    rfl
  cases isFirst <;> simp only [stageOf, if_true, Bool.false_eq_true, if_false, skipFrom, htoken,
    htail]

/-- What leads to an item takes one step: the comma, unless the item is the first, and whatever
stands between there and the value. -/
theorem skipFrom_lead (ending : Ending) (bound : Nat) (stack : List Bracket) (isFirst : Bool)
    (bracket : Bracket) {w w' : Text} (hw : IsSpace w) (hw' : IsSpace w') {c : Char}
    (hc : IsSign c) (hclose : c ≠ bracket.close) {t v : Text} {rest : List UInt8}
    (hlead : ∀ x, IsSpace x → ∃ y, IsSpace y
      ∧ skipLead bracket ending (utf8 (x ++ c :: t) ++ rest) = .ok ((), utf8 (y ++ v) ++ rest)) :
    ∃ y, IsSpace y
      ∧ skipFrom ending (bound + 1) (stageOf isFirst) (bracket :: stack)
          (utf8 (comma isFirst w ++ (w' ++ c :: t)) ++ rest)
        = skipFrom ending bound .before (bracket :: stack) (utf8 (y ++ v) ++ rest) := by
  cases isFirst with
  | true =>
    obtain ⟨y, hy, hfirst⟩ := hlead [] isSpace_nil
    rw [List.nil_append] at hfirst
    have htoken : Reader.token ending (utf8 (comma true w ++ (w' ++ c :: t)) ++ rest)
        = .ok (c, utf8 (c :: t) ++ rest) := Reader.token_eq hw' hc ending t rest
    refine ⟨y, hy, ?_⟩
    simp only [stageOf, if_true, skipFrom, htoken, if_neg hclose, hfirst]
  | false =>
    obtain ⟨y, hy, hother⟩ := hlead w' hw'
    have hsplit : comma false w ++ (w' ++ c :: t) = w ++ ',' :: (w' ++ c :: t) := by simp [comma]
    have htoken := Reader.token_eq hw (c := ',') (by decide) ending (w' ++ c :: t) rest
    have htail : (utf8 (',' :: (w' ++ c :: t)) ++ rest).tail = utf8 (w' ++ c :: t) ++ rest := rfl
    refine ⟨y, hy, ?_⟩
    simp only [stageOf, Bool.false_eq_true, if_false, hsplit, skipFrom, htoken, htail,
      if_neg bracket.comma_ne_close, if_true, hother]

/-! ## Walks -/

/-- The walk passes over a text as a value; every second step at least takes a character. -/
def Skips (u : Text) : Prop :=
  ∃ n, n + 1 ≤ 2 * u.length ∧ ∀ ending bound stack w rest, IsSpace w → Stops ending rest →
    skipFrom ending (bound + n) .before stack (utf8 (w ++ u) ++ rest)
      = skipFrom ending bound .behind stack rest

/-- The walk passes over the items to come, and over the closing bracket in one step more. -/
def SkipsItems (bracket : Bracket) (isFirst : Bool) (t : Text) : Prop :=
  ∃ n, n ≤ 2 * t.length ∧ ∀ ending bound stack w rest, IsSpace w →
    skipFrom ending (bound + 1 + n) (stageOf isFirst) (bracket :: stack)
        (utf8 (t ++ (w ++ [bracket.close])) ++ rest)
      = skipFrom ending bound .behind stack rest

theorem skipsItems_nil (bracket : Bracket) (isFirst : Bool) : SkipsItems bracket isFirst [] :=
  ⟨0, Nat.zero_le _, fun _ _ _ _ rest hw => skipFrom_close isFirst bracket hw rest⟩

theorem skips_scalar {d : Doc} {u : Text} (hu : d.Writes u)
    (hscalar : ∀ items members, d ≠ .array items ∧ d ≠ .object members) : Skips u := by
  obtain ⟨c, t, rfl, hc, hlist, hobject, hread⟩ := skipScalar_reads hu hscalar
  refine ⟨1, ?_, fun ending bound stack w rest hw hstop => ?_⟩
  · rw [List.length_cons]
    omega
  · simp only [skipFrom, Reader.token_eq hw hc ending t rest, if_neg hlist, if_neg hobject,
      hread ending rest hstop]

/-- A bracket takes one step, and its items the others. -/
theorem skips_bracket {bracket : Bracket} {sign : Char} {t x : Text}
    (hsign : (bracket = .array ∧ sign = '[') ∨ (bracket = .object ∧ sign = '\x7b'))
    (ht : SkipsItems bracket true t) (hx : IsSpace x) :
    Skips (sign :: (t ++ (x ++ [bracket.close]))) := by
  obtain ⟨n, hn, hwalk⟩ := ht
  refine ⟨1 + n + 1, ?_, fun ending bound stack w rest hw _ => ?_⟩
  · simp only [List.length_cons, List.length_append]
    omega
  · have hc : IsSign sign := by
      rcases hsign with ⟨-, rfl⟩ | ⟨-, rfl⟩ <;> decide
    have htail : (utf8 (sign :: (t ++ (x ++ [bracket.close]))) ++ rest).tail
        = utf8 (t ++ (x ++ [bracket.close])) ++ rest := by
      rw [utf8_cons_ascii hc.isAscii]
      rfl
    have hitems := hwalk ending bound stack x rest hx
    rw [← hitems, ← Nat.add_assoc, ← Nat.add_assoc]
    rcases hsign with ⟨rfl, rfl⟩ | ⟨rfl, rfl⟩
    · simp only [skipFrom, Reader.token_eq hw hc ending _ rest, if_true, htail]
      rfl
    · have hlist : ('\x7b' = '[') = False := by simp
      simp only [skipFrom, Reader.token_eq hw hc ending _ rest, hlist, if_false, if_true, htail]
      rfl

/-- An item in front of others, whatever leads to its value. -/
theorem skipsItems_cons {bracket : Bracket} {isFirst : Bool} {item u t w w' : Text}
    (hw : IsSpace w) (hw' : IsSpace w') {c : Char} {item' : Text} (hitem : item = c :: item')
    (hc : IsSign c) (hclose : c ≠ bracket.close) (hlength : u.length ≤ item.length)
    (hlead : ∀ ending x t' rest, IsSpace x → ∃ y, IsSpace y
      ∧ skipLead bracket ending (utf8 (x ++ (item ++ t')) ++ rest)
        = .ok ((), utf8 (y ++ (u ++ t')) ++ rest))
    (hu : Skips u) (ht : SkipsItems bracket false t) (hcomma : StartsComma t) :
    SkipsItems bracket isFirst (comma isFirst w ++ (w' ++ (item ++ t))) := by
  obtain ⟨n, hn, hvalue⟩ := hu
  obtain ⟨m, hm, hothers⟩ := ht
  subst hitem
  refine ⟨m + n + 1, ?_, fun ending bound stack x rest hx => ?_⟩
  · simp only [List.length_append] at *
    omega
  · have hsplit : (comma isFirst w ++ (w' ++ (c :: item' ++ t))) ++ (x ++ [bracket.close])
        = comma isFirst w ++ (w' ++ c :: (item' ++ (t ++ (x ++ [bracket.close])))) := by simp
    obtain ⟨y, hy, hfound⟩ := skipFrom_lead ending (bound + 1 + m + n) stack isFirst bracket hw hw'
      hc hclose (t := item' ++ (t ++ (x ++ [bracket.close])))
      (v := u ++ (t ++ (x ++ [bracket.close])))
      fun y hy => hlead ending y (t ++ (x ++ [bracket.close])) rest hy
    have hback : utf8 (y ++ (u ++ (t ++ (x ++ [bracket.close])))) ++ rest
        = utf8 (y ++ u) ++ (utf8 (t ++ (x ++ [bracket.close])) ++ rest) := by
      rw [← List.append_assoc y, Text.utf8_append (y ++ u), List.append_assoc]
    have hstop : Stops ending (utf8 (t ++ (x ++ [bracket.close])) ++ rest) :=
      hcomma.stops hx bracket.isSign_close.isAscii (by cases bracket <;> decide) ending rest
    have hsteps : bound + 1 + (m + n + 1) = bound + 1 + m + n + 1 := by omega
    rw [hsplit, hsteps, hfound, hback, hvalue ending _ _ y _ hy hstop]
    exact hothers ending bound stack x rest hx

mutual

/-- The walk passes over every value. -/
theorem Doc.Writes.skips {d : Doc} {u : Text} : d.Writes u → Skips u
  | .null => skips_scalar .null (by simp)
  | .boolean b => skips_scalar (.boolean b) (by simp)
  | .number n => skips_scalar (.number n) (by simp)
  | .text l => skips_scalar (.text l) (by simp)
  | .array hitems hx => skips_bracket (.inl ⟨rfl, rfl⟩) hitems.skips hx
  | .object hmembers hx => skips_bracket (.inr ⟨rfl, rfl⟩) hmembers.skips hx

theorem Doc.WritesItems.skips {isFirst : Bool} {items : List Doc} {t : Text} :
    Doc.WritesItems isFirst items t → SkipsItems .array isFirst t
  | .nil => skipsItems_nil .array isFirst
  | .cons hw hw' hd hitems => by
    obtain ⟨c, u', hcons, hc, hclose, -⟩ := hd.sign
    -- In a list nothing leads to the value but white space.
    exact skipsItems_cons hw hw' hcons hc hclose (Nat.le_refl _)
      (fun _ y _ _ hy => ⟨y, hy, rfl⟩) hd.skips hitems.skips hitems.startsComma

theorem Doc.WritesMembers.skips {isFirst : Bool} {members : List Member} {t : Text} :
    Doc.WritesMembers isFirst members t → SkipsItems .object isFirst t
  | .nil => skipsItems_nil .object isFirst
  | @Doc.WritesMembers.cons _ key _ _ u t w w' x x' hw hw' hx hx' hd hmembers => by
    rw [← List.append_assoc key.written]
    refine skipsItems_cons hw hw' (c := '"') rfl (by decide) (by decide) ?_ ?_ hd.skips
      hmembers.skips hmembers.startsComma
    · simp only [List.length_append, List.length_cons]
      omega
    · intro ending y t' rest hy
      refine ⟨x', hx', ?_⟩
      have hkey := skipKey_takes key hy hx ending (utf8 (x' ++ (u ++ t')) ++ rest)
      rw [← List.append_assoc, ← Text.utf8_append] at hkey
      have hsplit : y ++ ((key.written ++ (x ++ ':' :: (x' ++ u))) ++ t')
          = y ++ (key.written ++ (x ++ [':'])) ++ (x' ++ (u ++ t')) := by simp
      rw [hsplit]
      exact hkey

end

/-- **A value is passed over up to its end**, whatever it holds. -/
theorem skipValue_reads {d : Doc} {u w : Text} (hu : d.Writes u) (hw : IsSpace w) :
    Reads skipValue (w ++ u) () := by
  intro ending rest hstop
  obtain ⟨n, hn, hwalk⟩ := hu.skips
  have hlength : u.length ≤ (utf8 (w ++ u) ++ rest).length := by
    have hbytes := Text.length_le_utf8 (w ++ u)
    rw [List.length_append] at hbytes ⊢
    omega
  obtain ⟨k, hk⟩ : ∃ k, 2 * (utf8 (w ++ u) ++ rest).length + 2 = (k + 1) + n :=
    ⟨2 * (utf8 (w ++ u) ++ rest).length + 1 - n, by omega⟩
  rw [skipValue, hk, hwalk ending (k + 1) [] w rest hw hstop, skipFrom]

end Gazetteer.Json
