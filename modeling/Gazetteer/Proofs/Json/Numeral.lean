/-
# Gazetteer.Proofs.Json.Numeral -- a numeral is read back

The decimal numeral of a count is digits without a superfluous zero in front. The reader takes the
digits as far as they go and gathers them into the number again, as long as it fits into sixty-four
bits. What comes behind must end the number.
-/
import Gazetteer.Json.Shape
import Gazetteer.Proofs.Json.Reading
import Gazetteer.Proofs.Text.Chars
import Gazetteer.Proofs.Text.Numeral

namespace Gazetteer.Json

open scoped Powers

open Storage (Ending)
open Text (utf8 numeral isDigit_of_mem_numeral eq_zero_of_head?_numeral)

/-! ## Numerals -/

/-- The values of the digits of a numeral, most significant first, make up the number. -/
theorem foldl_numeral (n : Nat) :
    ((numeral n).map (fun c => c.toNat - 48)).foldl (fun n d => n * 10 + d) 0 = n := by
  have hvalue : Nat.ofDigitChars 10 (numeral n) 0 = n :=
    Nat.ofDigitChars_toDigits (by decide) (by decide)
  simp only [Nat.ofDigitChars_eq_foldl, Nat.mul_comm 10] at hvalue
  rw [List.foldl_map]
  exact hvalue

theorem gather_eq {ds : List Nat} {s : Nat}
    (h : ds.foldl (fun n d => n * 10 + d) s < 2 ^ (64 : Nat)) :
    gather s ds = (ds.foldl (fun n d => n * 10 + d) s, 0) := by
  have hle : ∀ (ds : List Nat) (s : Nat), s ≤ ds.foldl (fun n d => n * 10 + d) s := by
    intro ds
    induction ds with
    | nil => exact fun s => Nat.le_refl s
    | cons d ds ih =>
      intro s
      have hstep : s * 10 + d ≤ ds.foldl (fun n d => n * 10 + d) (s * 10 + d) := ih _
      show s ≤ ds.foldl (fun n d => n * 10 + d) (s * 10 + d)
      omega
  induction ds generalizing s with
  | nil => rfl
  | cons d ds ih =>
    have hfits : s * 10 + d < 2 ^ (64 : Nat) := Nat.lt_of_le_of_lt (hle ds _) h
    rw [gather, if_pos hfits]
    exact ih h

/-! ## Reading -/

theorem digit_ascii {c : Char} (h : c.isDigit = true) : c.toNat < 0x80 := by
  have hrange := Text.isDigit_iff.mp h
  omega

theorem Stops.not_digit {ending : Ending} {b : UInt8} {rest : List UInt8}
    (h : Stops ending (b :: rest)) : isDigitByte b = false := by
  have hstop : continuesNumber (Reader.sign b) = false := h
  unfold continuesNumber at hstop
  simp only [Bool.or_eq_false_iff] at hstop
  exact hstop.1.1.1

/-- Digits are taken up to a byte that is none. -/
theorem takeDigits_append {ending : Ending} {t : Text} (ht : ∀ c ∈ t, c.isDigit = true)
    {bytes : List UInt8} (hbytes : ∀ b ∈ bytes.head?, isDigitByte b = false) :
    takeDigits ending (utf8 t ++ bytes) = .ok (t.map (fun c => c.toNat - 48), bytes) := by
  induction t with
  | nil =>
    cases bytes with
    | nil => rfl
    | cons b bytes => simp [takeDigits, hbytes b rfl]
  | cons c t ih =>
    have hc : c.isDigit = true := ht c (by simp)
    have hbyte : isDigitByte (.ofNat c.toNat) = true := by
      rw [isDigitByte, sign_ofNat (digit_ascii hc)]
      exact hc
    have hvalue : (UInt8.ofNat c.toNat).toNat = c.toNat :=
      Text.toNat_byte (Nat.lt_trans (digit_ascii hc) (by decide))
    have hrest := ih fun d hd => ht d (List.mem_cons_of_mem _ hd)
    simp only [takeDigits, Except.ok.injEq, Prod.mk.injEq] at hrest ⊢
    rw [utf8_cons_ascii (digit_ascii hc), List.cons_append, List.takeWhile_cons_of_pos hbyte,
      List.dropWhile_cons_of_pos hbyte, List.map_cons, List.map_cons, hvalue, hrest.1]
    exact ⟨rfl, hrest.2⟩

/-- Digits are taken up to what ends the number. -/
theorem takeDigits_eq {ending : Ending} {t : Text} (ht : ∀ c ∈ t, c.isDigit = true)
    {rest : List UInt8} (hstop : Stops ending rest) :
    takeDigits ending (utf8 t ++ rest) = .ok (t.map (fun c => c.toNat - 48), rest) := by
  refine takeDigits_append ht fun b hb => ?_
  cases rest with
  | nil => simp at hb
  | cons b' rest =>
    obtain rfl := Option.some.inj hb
    exact hstop.not_digit

/-- Behind its digits a number is whole unless something continues it. -/
theorem restOf_eq {ending : Ending} {rest : List UInt8} (hstop : Stops ending rest) (n : Nat) :
    restOf false n 0 ending rest = .ok (.natural n, rest) := by
  cases rest with
  | nil =>
    have hcomplete : ending = .complete := hstop
    subst hcomplete
    rfl
  | cons b rest =>
    have hsign : continuesNumber (Reader.sign b) = false := hstop
    unfold continuesNumber at hsign
    simp only [Bool.or_eq_false_iff, beq_eq_false_iff_ne] at hsign
    obtain ⟨⟨⟨-, hpoint⟩, hsmall⟩, hlarge⟩ := hsign
    have hpeek : Reader.peek? ending (b :: rest) = .ok (some (Reader.sign b), b :: rest) := rfl
    rw [restOf, Reader.bind_eq hpeek]
    simp [hpoint, hsmall, hlarge, Reader.pure_eq, whole]

/-- **A numeral is read back**, if the number fits into sixty-four bits. -/
theorem readNumber_numeral {n : Nat} (h : n < 2 ^ (64 : Nat)) :
    Reads (readNumber false) (numeral n) (.natural n) := by
  intro ending rest hstop
  obtain ⟨c, t, hcons⟩ := List.exists_cons_of_ne_nil (Nat.toDigits_ne_nil (n := n) (b := 10))
  have hdigits : ∀ x ∈ c :: t, x.isDigit = true := by
    intro x hx
    rw [← hcons] at hx
    exact isDigit_of_mem_numeral hx
  have hc : c.isDigit = true := hdigits c (by simp)
  have hvalue : (t.map (fun c => c.toNat - 48)).foldl (fun n d => n * 10 + d) (c.toNat - 48) = n := by
    have hfold := foldl_numeral n
    rw [numeral, hcons, List.map_cons, List.foldl_cons, Nat.zero_mul, Nat.zero_add] at hfold
    exact hfold
  -- No digits come behind a zero in front.
  have hzero : (c = '0' && !(t.map (fun c => c.toNat - 48)).isEmpty) = false := by
    by_cases hhead : c = '0'
    · have hn : n = 0 := eq_zero_of_head?_numeral (by rw [numeral, hcons, hhead]; rfl)
      subst hn
      rw [Nat.toDigits_zero, List.cons.injEq] at hcons
      simp [← hcons.2]
    · simp [hhead]
  have hgather : gather (c.toNat - 48) (t.map (fun c => c.toNat - 48)) = (n, 0) := by
    rw [gather_eq (by rw [hvalue]; exact h), hvalue]
  have htake := takeDigits_eq (fun x hx => hdigits x (List.mem_cons_of_mem _ hx)) hstop
  rw [numeral, hcons, ← List.singleton_append, Text.utf8_append, List.append_assoc, readNumber,
    Reader.bind_eq (Reader.next_takes (digit_ascii hc) ending _), if_pos hc,
    Reader.bind_eq htake, hzero, hgather]
  exact restOf_eq hstop n

end Gazetteer.Json
