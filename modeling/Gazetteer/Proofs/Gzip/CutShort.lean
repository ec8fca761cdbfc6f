/-
# Gazetteer.Proofs.Gzip.CutShort -- compressed files that are cut short

A compressed file is read from the front, and a beginning of it is read as the file is, up to where
it ends. There the reader stops, and what it has written until then is a beginning of what it writes
of the whole file. This holds of every file that can be read, with blocks of any kind.

Whole bytes are missing from a file that is cut. That matters where the bits up to the next whole
byte are passed over, since their number is told from the bits that are left.
-/
import Gazetteer.Proofs.Gzip.Member

namespace Gazetteer.Gzip

open scoped Powers

open Storage (ReadFailure Stream)

/-! ## Reading a beginning -/

section Online

variable {σ ε α β γ : Type} {unit : Nat} {stop : ε}

/-- If the reader takes something off the front, then of every beginning from which whole units are
missing it takes the same, or it stops. -/
def Online (unit : Nat) (stop : ε) (x : List σ → Except ε (α × List σ)) : Prop :=
  ∀ ⦃cut missing a rest⦄, missing.length % unit = 0 → x (cut ++ missing) = .ok (a, rest) →
    x cut = .error stop ∨ ∃ left, rest = left ++ missing ∧ x cut = .ok (a, left)

theorem online_error (e : ε) :
    Online unit stop fun _ : List σ => (.error e : Except ε (α × List σ)) :=
  fun _ _ _ _ _ h => absurd h (by simp)

theorem online_ok (a : α) :
    Online unit stop fun l : List σ => (.ok (a, l) : Except ε (α × List σ)) := by
  intro cut missing a' rest _ h
  obtain ⟨rfl, rfl⟩ := Prod.mk.inj (Except.ok.inj h)
  exact .inr ⟨cut, rfl, rfl⟩

/-- What is read first is read of the beginning too, and the rest goes on from there. -/
theorem Online.bind_cut {x : List σ → Except ε (α × List σ)} (hx : Online unit stop x)
    {f : α × List σ → Except ε γ} {cut missing : List σ} {c : γ} (fits : γ → Prop)
    (hunit : missing.length % unit = 0) (h : x (cut ++ missing) >>= f = .ok c)
    (hf : ∀ a left, f (a, left ++ missing) = .ok c →
      f (a, left) = .error stop ∨ ∃ c', fits c' ∧ f (a, left) = .ok c') :
    x cut >>= f = .error stop ∨ ∃ c', fits c' ∧ x cut >>= f = .ok c' := by
  cases hread : x (cut ++ missing) with
  | error e => simp [hread, bind, Except.bind] at h
  | ok p =>
    rw [hread] at h
    rcases hx hunit hread with hend | ⟨left, hleft, hcut⟩
    · exact .inl (by rw [hend]; rfl)
    · rw [hcut]
      exact hf p.1 left (hleft ▸ h)

theorem Online.bind {x : List σ → Except ε (α × List σ)} (hx : Online unit stop x)
    {f : α → List σ → Except ε (β × List σ)} (hf : ∀ a, Online unit stop (f a)) :
    Online unit stop fun l => x l >>= fun p => f p.1 p.2 := by
  intro cut missing b rest hunit h
  let fits := fun c : β × List σ => ∃ left, rest = left ++ missing ∧ c = (b, left)
  have hcut := hx.bind_cut fits hunit h fun a left h => by
    rcases hf a hunit h with hend | ⟨last, hlast, hread⟩
    · exact .inl hend
    · exact .inr ⟨(b, last), ⟨last, hlast, rfl⟩, hread⟩
  rcases hcut with hend | ⟨c, ⟨last, hlast, rfl⟩, hread⟩
  · exact .inl hend
  · exact .inr ⟨last, hlast, hread⟩

end Online

/-! ## Bits -/

variable {α β : Type} {cut missing : Bits}

theorem online_taker_bind {x : Taker α} {f : α → Taker β} (hx : Online 8 Stop.cutOff x)
    (hf : ∀ a, Online 8 Stop.cutOff (f a)) : Online 8 Stop.cutOff (x >>= f) :=
  hx.bind hf

theorem online_pure (a : α) : Online 8 Stop.cutOff (pure a : Taker α) := online_ok a

theorem online_stop (why : Stop) : Online 8 Stop.cutOff (stop why : Taker α) := online_error why

theorem online_map {x : Taker α} (hx : Online 8 Stop.cutOff x) (f : α → β) :
    Online 8 Stop.cutOff (f <$> x) :=
  hx.bind fun a => online_ok (f a)

theorem splitBits?_cut {size : Nat} {front rest : Bits}
    (h : splitBits? size (cut ++ missing) = some (front, rest)) :
    splitBits? size cut = none
      ∨ ∃ left, rest = left ++ missing ∧ splitBits? size cut = some (front, left) := by
  induction size generalizing cut front with
  | zero =>
    obtain ⟨rfl, rfl⟩ := Prod.mk.inj (Option.some.inj h)
    exact .inr ⟨cut, rfl, rfl⟩
  | succ size ih =>
    cases cut with
    | nil => exact .inl rfl
    | cons b cut =>
      rw [List.cons_append, splitBits?] at h
      rw [splitBits?]
      obtain ⟨⟨front, rest⟩, hsplit, heq⟩ := Option.map_eq_some_iff.mp h
      obtain ⟨rfl, rfl⟩ := Prod.mk.inj heq
      rcases ih hsplit with hnone | ⟨left, hleft, hread⟩
      · exact .inl (by rw [hnone]; rfl)
      · exact .inr ⟨left, hleft, by rw [hread]; rfl⟩

theorem online_number (size : Nat) : Online 8 Stop.cutOff (number size) := by
  intro cut missing n rest _ h
  rw [number] at h ⊢
  split at h
  · exact absurd h (by simp)
  · rename_i front rest' hsplit
    obtain ⟨rfl, rfl⟩ := Prod.mk.inj (Except.ok.inj h)
    rcases splitBits?_cut hsplit with hnone | ⟨left, hleft, hread⟩
    · exact .inl (by rw [hnone])
    · exact .inr ⟨left, hleft, by rw [hread]⟩

theorem online_alignToByte : Online 8 Stop.cutOff alignToByte := by
  intro cut missing a rest hunit h
  obtain ⟨rfl, rfl⟩ := Prod.mk.inj (Except.ok.inj h)
  have hsame : (cut ++ missing).length % 8 = cut.length % 8 := by
    rw [List.length_append]
    omega
  refine .inr ⟨cut.drop (cut.length % 8), ?_, rfl⟩
  rw [hsame, List.drop_append_of_le_length (Nat.mod_le _ _)]

theorem online_numbers (size count : Nat) : Online 8 Stop.cutOff (numbers size count) := by
  induction count with
  | zero => exact online_pure []
  | succ count ih =>
    exact online_taker_bind (online_number size) fun n => online_map ih _

/-! ## Codes -/

theorem online_symbol (t : Tree) : Online 8 Stop.cutOff t.symbol := by
  induction t with
  | empty => exact online_error _
  | leaf s => exact online_ok s
  | node zero one hzero hone =>
    intro cut missing s rest hunit h
    match cut with
    | [] => exact .inl rfl
    | false :: cut => exact hzero hunit h
    | true :: cut => exact hone hunit h

theorem online_extended (base extra : List Nat) (i : Nat) :
    Online 8 Stop.cutOff (extended base extra i) := by
  unfold extended
  split
  · exact online_map (online_number _) _
  · exact online_stop _

theorem online_addedLengths (last : Option Nat) (symbol : Nat) :
    Online 8 Stop.cutOff (addedLengths last symbol) := by
  unfold addedLengths
  split
  · exact online_pure _
  split
  · split
    · exact online_stop _
    · exact online_map (online_number 2) _
  split
  · exact online_map (online_number 3) _
  · exact online_map (online_number 7) _

theorem online_codeLengths (t : Tree) (size bound : Nat) (soFar : List Nat) :
    Online 8 Stop.cutOff (codeLengths t size bound soFar) := by
  induction bound generalizing soFar with
  | zero => exact online_stop _
  | succ bound ih =>
    unfold codeLengths
    split
    · exact online_pure _
    split
    · exact online_stop _
    · refine online_taker_bind (online_symbol t) fun symbol => ?_
      exact online_taker_bind (online_addedLengths _ symbol) fun added => ih _

theorem online_treeOf (lengths : List Nat) : Online 8 Stop.cutOff (treeOf lengths) := by
  unfold treeOf
  split
  · exact online_pure _
  · exact online_stop _

theorem online_describedCodes : Online 8 Stop.cutOff describedCodes := by
  refine online_taker_bind (online_number 5) fun literals => ?_
  refine online_taker_bind (online_number 5) fun distances => ?_
  refine online_taker_bind (online_number 4) fun count => ?_
  refine online_taker_bind (online_numbers 3 _) fun written => ?_
  have hcodes : ∀ size literals : Nat, Online 8 Stop.cutOff (do
      let t ← treeOf (reorder written)
      let lengths ← codeLengths t size (size + 1) []
      let distances ← treeOf (lengths.drop literals)
      let literals ← treeOf (lengths.take literals)
      pure ⟨literals, distances⟩ : Taker Codes) := by
    intro size literals
    refine online_taker_bind (online_treeOf _) fun t => ?_
    refine online_taker_bind (online_codeLengths t _ _ _) fun lengths => ?_
    refine online_taker_bind (online_treeOf _) fun distances => ?_
    exact online_taker_bind (online_treeOf _) fun literals => online_pure _
  show Online 8 Stop.cutOff (if _ then _ else _)
  split
  · exact online_taker_bind (online_stop _) fun _ => hcodes _ _
  · exact hcodes _ _

theorem online_token (codes : Codes) : Online 8 Stop.cutOff (token codes) := by
  refine online_taker_bind (online_symbol codes.literals) fun s => ?_
  split
  · exact online_pure _
  split
  · exact online_pure _
  · refine online_taker_bind (online_extended _ _ _) fun length => ?_
    refine online_taker_bind (online_symbol codes.distances) fun i => ?_
    exact online_taker_bind (online_extended _ _ i) fun distance => online_pure _

theorem online_plainSize : Online 8 Stop.cutOff plainSize := by
  refine online_taker_bind online_alignToByte fun _ => ?_
  refine online_taker_bind (online_number 16) fun size => ?_
  refine online_taker_bind (online_number 16) fun inverted => ?_
  split
  · exact online_pure _
  · exact online_stop _

theorem online_blockFront : Online 8 Stop.cutOff blockFront := by
  refine online_taker_bind (online_number 1) fun last => ?_
  exact online_taker_bind (online_number 2) fun kind => online_pure _

/-! ## Written bytes -/

/-- Less was written, up to where the bits end; or all of it was, and less is left. Written bytes
are in reverse. -/
def Written.IsCutOf (missing : Bits) (reversed : List UInt8) (rest : Bits) (part : Written) :
    Prop :=
  (part.rest = .error .cutOff ∧ part.reversed <:+ reversed)
    ∨ ∃ left, rest = left ++ missing ∧ part = ⟨reversed, .ok left⟩

theorem suffix_repeatBytes (distance length : Nat) (written : List UInt8) :
    written <:+ repeatBytes distance length written := by
  induction length generalizing written with
  | zero => exact List.suffix_refl written
  | succ length ih => exact (List.suffix_cons _ written).trans (ih _)

/-- What was written stays. -/
theorem suffix_writeTokens (codes : Codes) (bound : Nat) (written : List UInt8) (bits : Bits) :
    written <:+ (writeTokens codes bound written bits).reversed := by
  induction bound generalizing written bits with
  | zero => exact List.suffix_refl written
  | succ bound ih =>
    rw [writeTokens]
    split
    · exact List.suffix_refl written
    · exact (List.suffix_cons _ written).trans (ih _ _)
    · exact (suffix_repeatBytes _ _ written).trans (ih _ _)
    · exact List.suffix_refl written

theorem suffix_writeCoded (codes : Taker Codes) (written : List UInt8) (bits : Bits) :
    written <:+ (writeCoded codes written bits).reversed := by
  rw [writeCoded]
  split
  · exact List.suffix_refl written
  · exact suffix_writeTokens _ _ written _

theorem suffix_writeBlock (kind : Nat) (written : List UInt8) (bits : Bits) :
    written <:+ (writeBlock kind written bits).reversed := by
  unfold writeBlock
  split
  · rw [writePlain]
    split
    · exact List.suffix_refl written
    · exact List.suffix_append _ written
  split
  · exact suffix_writeCoded _ written bits
  split
  · exact suffix_writeCoded _ written bits
  · exact List.suffix_refl written

theorem suffix_writeBlocks (bound : Nat) (written : List UInt8) (bits : Bits) :
    written <:+ (writeBlocks bound written bits).reversed := by
  induction bound generalizing written bits with
  | zero => exact List.suffix_refl written
  | succ bound ih =>
    rw [writeBlocks]
    split
    · exact List.suffix_refl written
    · rename_i last kind rest _
      have hblock := suffix_writeBlock kind written rest
      dsimp only
      split
      · exact hblock.trans (ih _ _)
      · exact hblock

/-! ## Blocks -/

/-- A step that is not there in full is not done. -/
theorem writeTokens_cut (codes : Codes) {bound bound' : Nat} {written reversed : List UInt8}
    {rest : Bits} (hunit : missing.length % 8 = 0)
    (h : writeTokens codes bound written (cut ++ missing) = ⟨reversed, .ok rest⟩) :
    (writeTokens codes bound' written cut).IsCutOf missing reversed rest := by
  -- The induction is on the bound of the whole; the bound of the beginning may run out before.
  induction bound generalizing bound' written cut with
  | zero => exact absurd (congrArg Written.rest h) (by simp [writeTokens])
  | succ bound ih =>
    have hsuffix := suffix_writeTokens codes (bound + 1) written (cut ++ missing)
    rw [h] at hsuffix
    cases bound' with
    | zero => exact .inl ⟨rfl, hsuffix⟩
    | succ bound' =>
      rw [writeTokens] at h ⊢
      cases htoken : token codes (cut ++ missing) with
      | error why => simp [htoken] at h
      | ok p =>
        obtain ⟨step, rest'⟩ := p
        rcases online_token codes hunit htoken with hend | ⟨left, rfl, hread⟩
        · rw [hend]
          exact .inl ⟨rfl, hsuffix⟩
        · rw [hread]
          rw [htoken] at h
          cases step with
          | byte b => exact ih h
          | copy length distance => exact ih h
          | blockEnd =>
            obtain ⟨rfl, hrest⟩ := Written.mk.inj h
            obtain rfl := Except.ok.inj hrest
            exact .inr ⟨left, rfl, rfl⟩

theorem writeCoded_cut {codes : Taker Codes} (hcodes : Online 8 Stop.cutOff codes)
    {written reversed : List UInt8} {rest : Bits} (hunit : missing.length % 8 = 0)
    (h : writeCoded codes written (cut ++ missing) = ⟨reversed, .ok rest⟩) :
    (writeCoded codes written cut).IsCutOf missing reversed rest := by
  have hsuffix := suffix_writeCoded codes written (cut ++ missing)
  rw [h] at hsuffix
  rw [writeCoded] at h ⊢
  cases hread : codes (cut ++ missing) with
  | error why => simp [hread] at h
  | ok p =>
    rcases hcodes hunit hread with hend | ⟨left, hleft, hcut⟩
    · rw [hend]
      exact .inl ⟨rfl, hsuffix⟩
    · rw [hcut]
      simp only [hread, hleft] at h
      exact writeTokens_cut p.1 hunit h

/-- Of the bytes that are there, those that are whole are taken. -/
theorem takeBytes_cut {count : Nat} {bytes : List UInt8} {rest : Bits}
    (h : takeBytes count (cut ++ missing) = (bytes, rest)) (hcount : bytes.length = count) :
    ((takeBytes count cut).1 <+: bytes ∧ (takeBytes count cut).1.length < count)
      ∨ ∃ left, rest = left ++ missing ∧ takeBytes count cut = (bytes, left) := by
  induction count generalizing cut bytes with
  | zero =>
    obtain ⟨rfl, rfl⟩ := Prod.mk.inj h
    exact .inr ⟨cut, rfl, rfl⟩
  | succ count ih =>
    rw [takeBytes] at h ⊢
    cases hsplit : splitBits? 8 (cut ++ missing) with
    | none =>
      obtain ⟨rfl, -⟩ : [] = bytes ∧ [] = rest := by simpa [hsplit] using h
      exact absurd hcount (by simp)
    | some p =>
      obtain ⟨front, rest'⟩ := p
      simp only [hsplit, Prod.mk.injEq] at h
      obtain ⟨rfl, hrest⟩ := h
      rcases splitBits?_cut hsplit with hnone | ⟨left, rfl, hread⟩
      · rw [hnone]
        exact .inl ⟨List.nil_prefix, Nat.zero_lt_succ count⟩
      · rw [hread]
        have hothers : takeBytes count (left ++ missing)
            = ((takeBytes count (left ++ missing)).1, rest) := Prod.ext rfl hrest
        rcases ih hothers (by simpa using hcount) with ⟨hbegins, hfew⟩ | ⟨last, hlast, hcut⟩
        · refine .inl ⟨?_, ?_⟩
          · exact List.cons_prefix_cons.mpr ⟨rfl, hbegins⟩
          · exact Nat.succ_lt_succ hfew
        · exact .inr ⟨last, hlast, by simp only [hcut]⟩

theorem writePlain_cut {written reversed : List UInt8} {rest : Bits}
    (hunit : missing.length % 8 = 0)
    (h : writePlain written (cut ++ missing) = ⟨reversed, .ok rest⟩) :
    (writePlain written cut).IsCutOf missing reversed rest := by
  rw [writePlain] at h ⊢
  cases hsize : plainSize (cut ++ missing) with
  | error why => simp [hsize] at h
  | ok p =>
    obtain ⟨size, rest'⟩ := p
    simp only [hsize, Written.mk.injEq] at h
    obtain ⟨rfl, hrest⟩ := h
    split at hrest
    · rename_i hcount
      obtain rfl := Except.ok.inj hrest
      rcases online_plainSize hunit hsize with hend | ⟨left, rfl, hread⟩
      · rw [hend]
        exact .inl ⟨rfl, List.suffix_append _ written⟩
      · rw [hread]
        have htaken : takeBytes size (left ++ missing)
            = ((takeBytes size (left ++ missing)).1, (takeBytes size (left ++ missing)).2) := rfl
        rcases takeBytes_cut htaken hcount with ⟨hbegins, hfew⟩ | ⟨last, hlast, hcut⟩
        · refine .inl ⟨if_neg (Nat.ne_of_lt hfew), ?_⟩
          obtain ⟨more, hmore⟩ := List.reverse_suffix.mpr hbegins
          exact ⟨more, by rw [← List.append_assoc, hmore]⟩
        · refine .inr ⟨last, hlast, ?_⟩
          simp only [hcut, if_pos hcount]
    · exact absurd hrest (by simp)

theorem writeBlock_cut {kind : Nat} {written reversed : List UInt8} {rest : Bits}
    (hunit : missing.length % 8 = 0)
    (h : writeBlock kind written (cut ++ missing) = ⟨reversed, .ok rest⟩) :
    (writeBlock kind written cut).IsCutOf missing reversed rest := by
  unfold writeBlock at h ⊢
  by_cases hplain : kind = 0
  · rw [if_pos hplain] at h ⊢
    exact writePlain_cut hunit h
  rw [if_neg hplain] at h ⊢
  by_cases hfixed : kind = 1
  · rw [if_pos hfixed] at h ⊢
    exact writeCoded_cut (online_pure fixedCodes) hunit h
  rw [if_neg hfixed] at h ⊢
  by_cases hdescribed : kind = 2
  · rw [if_pos hdescribed] at h ⊢
    exact writeCoded_cut online_describedCodes hunit h
  · rw [if_neg hdescribed] at h
    exact absurd (congrArg Written.rest h) (by simp)

theorem writeBlocks_cut {bound : Nat} (bound' : Nat) {written reversed : List UInt8} {rest : Bits}
    (hunit : missing.length % 8 = 0)
    (h : writeBlocks bound written (cut ++ missing) = ⟨reversed, .ok rest⟩) :
    (writeBlocks bound' written cut).IsCutOf missing reversed rest := by
  -- The induction is on the bound of the whole, block by block.
  induction bound generalizing bound' written cut with
  | zero => exact absurd (congrArg Written.rest h) (by simp [writeBlocks])
  | succ bound ih =>
    have hsuffix := suffix_writeBlocks (bound + 1) written (cut ++ missing)
    rw [h] at hsuffix
    cases bound' with
    | zero => exact .inl ⟨rfl, hsuffix⟩
    | succ bound' =>
      rw [writeBlocks] at h ⊢
      cases hfront : blockFront (cut ++ missing) with
      | error why => simp [hfront] at h
      | ok p =>
        obtain ⟨⟨last, kind⟩, rest'⟩ := p
        rcases online_blockFront hunit hfront with hend | ⟨left, rfl, hread⟩
        · rw [hend]
          exact .inl ⟨rfl, hsuffix⟩
        · simp only [hfront] at h
          simp only [hread]
          cases hwhole : writeBlock kind written (left ++ missing) with
          | mk block blockRest =>
            rw [hwhole] at h
            cases blockRest with
            | error why => cases last <;> exact absurd (congrArg Written.rest h) (by simp)
            | ok bits =>
              rcases writeBlock_cut hunit hwhole with ⟨hend, hless⟩ | ⟨bits', rfl, hcut⟩
              · have hblock : block <:+ reversed := by
                  cases last with
                  | false =>
                    have hothers := suffix_writeBlocks bound block bits
                    simp only at h
                    rwa [h] at hothers
                  | true =>
                    obtain ⟨rfl, -⟩ := Written.mk.inj h
                    exact List.suffix_refl block
                rw [hend]
                cases last <;> exact .inl ⟨hend, hless.trans hblock⟩
              · rw [hcut]
                cases last with
                | false => exact ih bound' h
                | true =>
                  obtain ⟨rfl, hrest⟩ := Written.mk.inj h
                  obtain rfl := Except.ok.inj hrest
                  exact .inr ⟨bits', rfl, rfl⟩

/-- A beginning of compressed data is undone to a beginning of what the data comes to. -/
theorem inflate_cut {bytes more content : List UInt8} {rest : Bits}
    (h : inflate (bytes ++ more) = ⟨content, .ok rest⟩) :
    ((inflate bytes).rest = .error .cutOff ∧ (inflate bytes).bytes <+: content)
      ∨ ∃ left, rest = left ++ bitsOf more ∧ inflate bytes = ⟨content, .ok left⟩ := by
  have hunit : (bitsOf more).length % 8 = 0 := by
    rw [length_bitsOf]
    omega
  rw [inflate, bitsOf_append] at h
  obtain ⟨hcontent, hrest⟩ := Inflated.mk.inj h
  have hall : writeBlocks ((bitsOf bytes ++ bitsOf more).length + 1) []
      (bitsOf bytes ++ bitsOf more) = ⟨content.reverse, .ok rest⟩ := by
    rw [← hcontent, ← hrest, List.reverse_reverse]
  rcases writeBlocks_cut ((bitsOf bytes).length + 1) hunit hall with
    ⟨hend, hless⟩ | ⟨left, hleft, hcut⟩
  · refine .inl ⟨hend, ?_⟩
    rw [← List.reverse_suffix, inflate]
    simpa using hless
  · refine .inr ⟨left, hleft, ?_⟩
    rw [inflate]
    simp only [hcut, List.reverse_reverse]

/-! ## Headers -/

theorem online_splitBytes (count : Nat) : Online 1 ReadFailure.cutOff (splitBytes count) := by
  intro cut missing a rest _ h
  rw [splitBytes, List.splitAt_eq] at h
  rw [splitBytes, List.splitAt_eq]
  split at h
  · exact absurd h (by simp)
  · obtain ⟨rfl, rfl⟩ := Prod.mk.inj (Except.ok.inj h)
    by_cases hfew : cut.length < count
    · exact .inl (if_pos hfew)
    · have hcount : count ≤ cut.length := Nat.le_of_not_lt hfew
      rw [if_neg hfew, List.take_append_of_le_length hcount]
      exact .inr ⟨cut.drop count, List.drop_append_of_le_length hcount, rfl⟩

theorem online_splitName : Online 1 ReadFailure.cutOff splitName := by
  intro cut missing name rest hunit h
  induction cut generalizing name with
  | nil => exact .inl rfl
  | cons b cut ih =>
    rw [List.cons_append, splitName] at h
    rw [splitName]
    by_cases hzero : b = 0
    · rw [if_pos hzero] at h ⊢
      obtain ⟨rfl, rfl⟩ := Prod.mk.inj (Except.ok.inj h)
      exact .inr ⟨cut, rfl, rfl⟩
    · rw [if_neg hzero] at h ⊢
      cases hname : splitName (cut ++ missing) with
      | error e => simp [hname, Except.map] at h
      | ok p =>
        simp only [hname, Except.map, Except.ok.injEq, Prod.mk.injEq] at h
        obtain ⟨rfl, rfl⟩ := h
        rcases ih hname with hend | ⟨left, hleft, hread⟩
        · exact .inl (by rw [hend]; rfl)
        · exact .inr ⟨left, hleft, by rw [hread]; rfl⟩

theorem online_optionalPart {part : List UInt8 → Except ReadFailure (List UInt8 × List UInt8)}
    (hpart : Online 1 ReadFailure.cutOff part) (present : Bool) :
    Online 1 ReadFailure.cutOff (optionalPart present part) := by
  cases present with
  | false => exact online_ok []
  | true => exact hpart

theorem online_splitExtra : Online 1 ReadFailure.cutOff splitExtra := by
  have hextra : ∀ size, Online 1 ReadFailure.cutOff fun bytes =>
      splitBytes (littleEndian size) bytes >>= fun p => .ok (size ++ p.1, p.2) :=
    fun size => (online_splitBytes _).bind fun extra => online_ok (size ++ extra)
  exact (online_splitBytes 2).bind hextra

theorem online_splitHeaderCheck (header : List UInt8) :
    Online 1 ReadFailure.cutOff (splitHeaderCheck header) := by
  have hcheck : ∀ check, Online 1 ReadFailure.cutOff fun bytes : List UInt8 =>
      if littleEndian check = (checksum header).toNat % 2 ^ (16 : Nat) then .ok (check, bytes)
      else .error .badChecksum := by
    intro check
    by_cases hfits : littleEndian check = (checksum header).toNat % 2 ^ (16 : Nat)
    · simp only [if_pos hfits]
      exact online_ok check
    · simp only [if_neg hfits]
      exact online_error _
  exact (online_splitBytes 2).bind hcheck

/-- A beginning of a file is cut off within the header, or the header is there. -/
theorem behindHeader_cut {bytes more data : List UInt8}
    (h : behindHeader (bytes ++ more) = .ok data) :
    behindHeader bytes = .error .cutOff
      ∨ ∃ left, data = left ++ more ∧ behindHeader bytes = .ok left := by
  have hunit : more.length % 1 = 0 := Nat.mod_one _
  refine (online_splitBytes 10).bind_cut _ hunit h fun start left h => ?_
  dsimp only at h ⊢
  cases hflags : headerFlags start with
  | error e => simp [hflags, bind, Except.bind] at h
  | ok flags =>
    rw [hflags] at h
    refine (online_optionalPart online_splitExtra _).bind_cut _ hunit h fun extra left h => ?_
    refine (online_optionalPart online_splitName _).bind_cut _ hunit h fun name left h => ?_
    refine (online_optionalPart online_splitName _).bind_cut _ hunit h fun comment left h => ?_
    have hcheck := online_optionalPart (online_splitHeaderCheck (start ++ extra ++ name ++ comment))
    refine (hcheck _).bind_cut _ hunit h fun check left h => ?_
    exact .inr ⟨left, (Except.ok.inj h).symm, rfl⟩

/-! ## Members -/

namespace Member

/-- A trailer that is read is the one that belongs to what was written. -/
theorem trailer_unique (m : Member) {trailer : List UInt8} (hlength : trailer.length = 8)
    (hcheck : littleEndian (trailer.take 4) = (checksum m.content).toNat)
    (hsize : littleEndian (trailer.drop 4) = m.content.length % 2 ^ (32 : Nat)) :
    trailer = m.trailer := by
  have hfront : (trailer.take 4).length = 4 := by
    rw [List.length_take]
    omega
  have hback : (trailer.drop 4).length = 4 := by
    rw [List.length_drop]
    omega
  have htake := lowBytes_littleEndian (trailer.take 4)
  have hdrop := lowBytes_littleEndian (trailer.drop 4)
  have hmod : lowBytes 4 (m.content.length % 2 ^ (32 : Nat)) = lowBytes 4 m.content.length :=
    lowBytes_mod 4 m.content.length
  rw [hfront, hcheck] at htake
  rw [hback, hsize, hmod] at hdrop
  calc trailer = trailer.take 4 ++ trailer.drop 4 := (List.take_append_drop 4 trailer).symm
    _ = m.trailer := by rw [← htake, ← hdrop, Member.trailer]

/-- Another trailer does not fit. -/
theorem withTrailer_changed (m : Member) {trailer : List UInt8} (hlength : trailer.length = 8)
    (hne : trailer ≠ m.trailer) :
    withTrailer m.content (m.fill ++ bitsOf trailer) = .broken m.content .badChecksum := by
  have hwhole : (bitsOf trailer).length % 8 = 0 := by
    rw [length_bitsOf]
    omega
  have htake := takeBytes_bitsOf trailer []
  rw [hlength, List.append_nil] at htake
  simp only [withTrailer, fill, drop_fillUp hwhole, htake, hlength, Nat.lt_irrefl, if_false]
  rw [if_neg]
  rintro ⟨hcheck, hsize⟩
  exact hne (m.trailer_unique hlength hcheck hsize)

/-- Too few bits are left for a trailer. -/
theorem withTrailer_few (content : List UInt8) {rest : Bits} (h : rest.length < 64) :
    withTrailer content rest = .broken content .cutOff := by
  have hfew : (takeBytes 8 (rest.drop (rest.length % 8))).1.length < 8 := by
    have hle := length_takeBytes_le 8 (rest.drop (rest.length % 8))
    rw [List.length_drop] at hle
    omega
  rw [withTrailer]
  exact if_pos hfew

/-- **A compressed file that is cut short** gives a beginning of what it holds, and then a failure,
wherever it is cut. -/
theorem decompress_cut (m : Member) {bytes : List UInt8} (hbytes : bytes <+: m.written)
    (hne : bytes ≠ m.written) :
    ∃ content failure, content <+: m.content ∧ decompress bytes = .broken content failure := by
  obtain ⟨more, hmore⟩ := hbytes
  have hpos : 0 < more.length := by
    rw [List.length_pos_iff]
    rintro rfl
    exact hne (by rwa [List.append_nil] at hmore)
  have hheader : behindHeader (bytes ++ more) = .ok (m.data ++ m.trailer) := by
    rw [hmore, written, List.append_assoc]
    exact m.header.behindHeader_written _
  rw [decompress]
  rcases behindHeader_cut hheader with hend | ⟨left, hleft, hread⟩
  · exact ⟨[], .cutOff, List.nil_prefix, by rw [hend]⟩
  have hdata : inflate (left ++ more) = ⟨m.content, .ok (m.fill ++ bitsOf m.trailer)⟩ := by
    rw [← hleft, m.inflate_data]
  rw [hread]
  rcases inflate_cut hdata with ⟨hend, hless⟩ | ⟨rest, hrest, hread⟩
  · exact ⟨(inflate left).bytes, .badData, hless, by simp only [dataStream, hend]⟩
  · have hfew : rest.length < 64 := by
      have hlength := congrArg List.length hrest
      have htrailer : m.trailer.length = 8 := by simp [trailer]
      have hfill := length_fillUp m.filler m.blocks.length
      simp only [List.length_append, length_bitsOf, htrailer, fill] at hlength
      omega
    exact ⟨m.content, .cutOff, List.prefix_rfl, by
      simp only [dataStream, hread, withTrailer_few m.content hfew]⟩

/-- **A compressed file with another trailer** gives what it holds, and then a failure. -/
theorem decompress_changed (m : Member) {trailer : List UInt8} (hlength : trailer.length = 8)
    (hne : trailer ≠ m.trailer) :
    decompress (m.header.written ++ m.data ++ trailer) = .broken m.content .badChecksum := by
  rw [List.append_assoc, decompress, m.header.behindHeader_written]
  simp only [dataStream, m.inflate_data, m.withTrailer_changed hlength hne]

end Member

end Gazetteer.Gzip
