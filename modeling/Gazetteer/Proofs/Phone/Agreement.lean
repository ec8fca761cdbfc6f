/-
# Gazetteer.Proofs.Phone.Agreement -- classifying a number and formatting it agree

Classifying an input and formatting it each look for a mask, count the digits and lay them onto the
mask, and only the former asks for a calling code and a pattern. `Classified` lists what classifying
can come to, with the reason in each case; whatever is shown of an input is then told by its status,
and it is what formatting gives.

White space around an input holds no digit, and it is trimmed before the pattern is asked, so it
changes nothing but the input that is shown again.
-/
import Gazetteer.Country.Basic
import Gazetteer.Proofs.Country.Normalization
import Gazetteer.Proofs.Phone.Status
import Gazetteer.Proofs.Text.Blank
import Gazetteer.Proofs.Text.Chars

namespace Gazetteer

namespace Phone

variable {c : Conventions} {mask : Mask} {code input : Text} {n : Number}

/-! ## What classifying comes to -/

/-- The outcomes of classifying an input. -/
inductive Classified [Pattern.SizeLimit] (c : Conventions) (input : Text) : Number → Prop where
  /-- There is no mask or no calling code. -/
  | unknown (h : c.mask.bind Mask.ofText? = none ∨ Text.nonBlank? c.callingCode = none) :
    Classified c input (.unchanged .invalid input)
  | empty {mask : Mask} {code : Text} (hmask : c.mask.bind Mask.ofText? = some mask)
    (hcode : Text.nonBlank? c.callingCode = some code) (h : Text.digits input = []) :
    Classified c input (.unchanged .empty input)
  | incomplete {mask : Mask} {code : Text} (hmask : c.mask.bind Mask.ofText? = some mask)
    (hcode : Text.nonBlank? c.callingCode = some code) (h : Text.digits input ≠ [])
    (hfew : (Text.digits input).length < mask.slots) :
    Classified c input (.shown .incomplete input (mask.fill (Text.digits input)) code)
  | complete {mask : Mask} {code : Text} (hmask : c.mask.bind Mask.ofText? = some mask)
    (hcode : Text.nonBlank? c.callingCode = some code) (h : Text.digits input ≠ [])
    (hfull : (Text.digits input).length = mask.slots) (hvalid : validate input c.pattern = true) :
    Classified c input (.shown .complete input (mask.fill (Text.digits input)) code)
  /-- There are too many digits, or the pattern refuses the input. -/
  | refused {mask : Mask} {code : Text} (hmask : c.mask.bind Mask.ofText? = some mask)
    (hcode : Text.nonBlank? c.callingCode = some code) (h : Text.digits input ≠ [])
    (hlength : mask.slots ≤ (Text.digits input).length)
    (hnot : (Text.digits input).length = mask.slots → validate input c.pattern = false) :
    Classified c input (.unchanged .invalid input)

theorem analyze_unknown [Pattern.SizeLimit]
    (h : c.mask.bind Mask.ofText? = none ∨ Text.nonBlank? c.callingCode = none) (input : Text) :
    analyze input c = .unchanged .invalid input := by
  unfold analyze
  rcases h with h | h
  · rw [h]
  · rw [h]
    cases c.mask.bind Mask.ofText? <;> rfl

/-- Classifying comes to one of the outcomes. -/
theorem classified_analyze [Pattern.SizeLimit] (c : Conventions) (input : Text) :
    Classified c input (analyze input c) := by
  cases hmask : c.mask.bind Mask.ofText? with
  | none =>
    rw [analyze_unknown (Or.inl hmask)]
    exact .unknown (Or.inl hmask)
  | some mask =>
    cases hcode : Text.nonBlank? c.callingCode with
    | none =>
      rw [analyze_unknown (Or.inr hcode)]
      exact .unknown (Or.inr hcode)
    | some code =>
      by_cases h : Text.digits input = []
      · rw [analyze_none hmask hcode h]
        exact .empty hmask hcode h
      rcases Nat.lt_trichotomy (Text.digits input).length mask.slots with hfew | hfull | hmany
      · rw [analyze_few hmask hcode h hfew]
        exact .incomplete hmask hcode h hfew
      · rw [analyze_full hmask hcode h hfull]
        split
        · rename_i hvalid
          exact .complete hmask hcode h hfull hvalid
        · rename_i hrefused
          exact .refused hmask hcode h (Nat.le_of_eq hfull.symm) fun _ => by simpa using hrefused
      · rw [analyze_many hmask hcode hmany]
        exact .refused hmask hcode h (Nat.le_of_lt hmany) fun hfull => by omega

/-! ## The last two statuses -/

/-- An input is complete exactly if it has a digit for every slot, at least one, and the pattern
accepts it. -/
theorem status_eq_complete_iff [Pattern.SizeLimit] (hmask : c.mask.bind Mask.ofText? = some mask)
    (hcode : Text.nonBlank? c.callingCode = some code) :
    (analyze input c).status = .complete
      ↔ 0 < (Text.digits input).length ∧ (Text.digits input).length = mask.slots
        ∧ validate input c.pattern = true := by
  constructor
  · have hclass := classified_analyze c input
    generalize analyze input c = n at hclass
    intro hstatus
    cases hclass with
    | complete hmask' _ h hfull hvalid =>
      obtain rfl := Option.some.inj (hmask.symm.trans hmask')
      exact ⟨List.length_pos_iff.mpr h, hfull, hvalid⟩
    | _ => cases hstatus
  · rintro ⟨hpos, hfull, hvalid⟩
    rw [analyze_full hmask hcode (List.length_pos_iff.mp hpos) hfull, if_pos hvalid]
    rfl

/-- An input is invalid exactly if it is nothing else. -/
theorem status_eq_invalid_iff (s : Status) :
    s = .invalid ↔ s ≠ .empty ∧ s ≠ .incomplete ∧ s ≠ .complete := by
  cases s <;> decide

/-! ## What is shown -/

theorem format_eq {stored : Option Text} (hmask : stored.bind Mask.ofText? = some mask)
    (input : Text) (allowPart : Bool) :
    format input stored allowPart
      = if (Text.digits input).isEmpty || (!allowPart && (Text.digits input).length != mask.slots)
        then input else mask.fill (Text.digits input) := by
  rw [format, hmask]

/-- The formatted number is what formatting gives, at full length even if no part is allowed. -/
theorem Classified.formatted_eq [Pattern.SizeLimit] (h : Classified c input n) :
    (n.status ≠ .invalid → n.formatted = format input c.mask true)
      ∧ (n.status = .complete → n.formatted = format input c.mask false)
      ∧ (n.status = .empty ∨ n.status = .incomplete → format input c.mask false = input) := by
  cases h with
  | unknown | refused =>
    exact ⟨fun h => absurd rfl h, by simp [Number.unchanged], by simp [Number.unchanged]⟩
  | empty hmask _ h =>
    have hsame : ∀ allowPart, format input c.mask allowPart = input := by
      intro allowPart
      rw [format_eq hmask, h]
      rfl
    exact ⟨fun _ => (hsame true).symm, by simp [Number.unchanged], fun _ => hsame false⟩
  | incomplete hmask _ h hfew =>
    refine ⟨fun _ => ?_, by simp [Number.shown], fun _ => ?_⟩
    · rw [format_eq hmask, if_neg (by simpa using h)]
      rfl
    · rw [format_eq hmask, if_pos (by simp [Nat.ne_of_lt hfew])]
  | @complete mask _ hmask _ h hfull _ =>
    have hfill : ∀ allowPart,
        format input c.mask allowPart = mask.fill (Text.digits input) := by
      intro allowPart
      rw [format_eq hmask, if_neg (by simp [h, hfull])]
    exact ⟨fun _ => (hfill true).symm, fun _ => (hfill false).symm, by simp [Number.shown]⟩

/-- The status tells what is the input as it was typed, and what stands behind the calling code. -/
theorem Classified.texts_eq [Pattern.SizeLimit] (h : Classified c input n) :
    n.typed = input
      ∧ (n.status = .empty ∨ n.status = .invalid → n.formatted = input ∧ n.international = input)
      ∧ (n.status = .incomplete ∨ n.status = .complete →
        n.international = c.callingCode.getD [] ++ ' ' :: n.formatted) := by
  have hgiven : ∀ {code : Text}, Text.nonBlank? c.callingCode = some code →
      c.callingCode.getD [] = code := by
    intro code hcode
    rw [Option.eq_some_of_filter_eq_some hcode]
    rfl
  cases h with
  | unknown | refused | empty => exact ⟨rfl, fun _ => ⟨rfl, rfl⟩, by simp [Number.unchanged]⟩
  | incomplete _ hcode | complete _ hcode =>
    refine ⟨rfl, by simp [Number.shown], fun _ => ?_⟩
    rw [hgiven hcode]
    rfl

/-! ## White space around an input -/

section

variable {a b : Text} (ha : Text.isBlank a = true) (hb : Text.isBlank b = true)

include ha hb

theorem digits_between (input : Text) :
    Text.digits (a ++ (input ++ b)) = Text.digits input := by
  have hblank : ∀ {w : Text}, Text.isBlank w = true → Text.digits w = [] := by
    intro w hw
    refine Text.digits_eq_nil fun x hx => ?_
    have hspace := Text.toNat_of_isBlankChar (List.all_eq_true.mp hw x hx)
    rw [Bool.eq_false_iff]
    intro hdigit
    have hrange := Text.isDigit_iff.mp hdigit
    omega
  rw [Text.digits_append, Text.digits_append, hblank ha, hblank hb, List.nil_append,
    List.append_nil]

theorem validate_between [Pattern.SizeLimit] (input : Text) (pattern : Option Text) :
    validate (a ++ (input ++ b)) pattern = validate input pattern := by
  unfold validate Pattern.accepts
  rw [Text.trim_between ha hb]

/-- The digits and the verdict of the pattern stay, so the status does, and so does what is shown
where it is not the input as it was typed. -/
theorem Classified.between [Pattern.SizeLimit] (h : Classified c input n) :
    (analyze (a ++ (input ++ b)) c).status = n.status
      ∧ (n.status = .incomplete ∨ n.status = .complete →
        (analyze (a ++ (input ++ b)) c).formatted = n.formatted
          ∧ (analyze (a ++ (input ++ b)) c).international = n.international) := by
  have hdigits := digits_between ha hb input
  have hvalidate := validate_between ha hb input c.pattern
  cases h with
  | unknown h =>
    rw [analyze_unknown h]
    exact ⟨rfl, by simp [Number.unchanged]⟩
  | empty hmask hcode h =>
    rw [analyze_none hmask hcode (hdigits.trans h)]
    exact ⟨rfl, by simp [Number.unchanged]⟩
  | incomplete hmask hcode h hfew =>
    rw [analyze_few hmask hcode (by rwa [hdigits]) (by rwa [hdigits]), hdigits]
    exact ⟨rfl, fun _ => ⟨rfl, rfl⟩⟩
  | complete hmask hcode h hfull hvalid =>
    rw [analyze_full hmask hcode (by rwa [hdigits]) (by rwa [hdigits]), hdigits, hvalidate,
      if_pos hvalid]
    exact ⟨rfl, fun _ => ⟨rfl, rfl⟩⟩
  | refused hmask hcode h hlength hnot =>
    refine ⟨?_, by simp [Number.unchanged]⟩
    rcases Nat.eq_or_lt_of_le hlength with hfull | hmany
    · rw [analyze_full hmask hcode (by rwa [hdigits]) (by rw [hdigits, hfull]), hvalidate,
        hnot hfull.symm]
      rfl
    · rw [analyze_many hmask hcode (by rwa [hdigits])]
      rfl

end

end Phone

/-! ## Records -/

/-- **Classifying and formatting agree.** Without a mask or a calling code every input is invalid.
Otherwise the number of its digits against the number of slots tells the status, and the pattern is
asked at full length only. What is shown is told by the status and is what formatting gives, and
white space around the input makes no difference. -/
theorem Country.analyzePhone_agrees [Pattern.SizeLimit] (c : Country) (input : Text) :
    let n := c.analyzePhone input
    let count := (Text.digits input).length
    ((Text.nonBlank? c.phoneFormat = none ∨ Text.nonBlank? c.phoneCountryCode = none) →
        n.status = .invalid)
      ∧ (∀ (mask : Phone.Mask) (code : Text), c.phoneFormat = some mask.text →
        Text.nonBlank? c.phoneCountryCode = some code →
        (n.status = .empty ↔ count = 0)
          ∧ (n.status = .incomplete ↔ 0 < count ∧ count < mask.slots)
          ∧ (n.status = .complete ↔ 0 < count ∧ count = mask.slots ∧ c.validatePhone input = true)
          ∧ (n.status = .invalid ↔ ¬ count = 0 ∧ ¬ (0 < count ∧ count < mask.slots)
            ∧ ¬ (0 < count ∧ count = mask.slots ∧ c.validatePhone input = true)))
      ∧ (n.status ≠ .invalid → n.formatted = c.formatPhone input true)
      ∧ (n.status = .complete → n.formatted = c.formatPhone input false)
      ∧ (n.status = .empty ∨ n.status = .incomplete → c.formatPhone input false = input)
      ∧ (n.status = .empty ∨ n.status = .invalid → n.formatted = input ∧ n.international = input)
      ∧ (n.status = .incomplete ∨ n.status = .complete →
        n.international = c.callingCode ++ ' ' :: n.formatted)
      ∧ n.typed = input
      ∧ ∀ a b, Text.isBlank a = true → Text.isBlank b = true →
        let padded := c.analyzePhone (a ++ (input ++ b))
        padded.status = n.status
          ∧ (n.status = .incomplete ∨ n.status = .complete →
            padded.formatted = n.formatted ∧ padded.international = n.international) := by
  intro n count
  have hclass : Phone.Classified c.phone input n := Phone.classified_analyze c.phone input
  obtain ⟨hformat, hwhole, hpart⟩ := hclass.formatted_eq
  obtain ⟨htyped, hsame, hcalling⟩ := hclass.texts_eq
  refine ⟨fun h => ?_, fun mask code hmask hcode => ?_, hformat, hwhole, hpart, hsame, hcalling,
    htyped, fun a b ha hb => hclass.between ha hb⟩
  · have hunknown : c.phone.mask.bind Phone.Mask.ofText? = none
        ∨ Text.nonBlank? c.phone.callingCode = none := by
      rcases h with h | h
      · left
        rw [← bind_ofText?_nonBlank?]
        show (Text.nonBlank? c.phoneFormat).bind Phone.Mask.ofText? = none
        rw [h]
        rfl
      · exact Or.inr h
    show (Phone.analyze input c.phone).status = .invalid
    rw [Phone.analyze_unknown hunknown]
    rfl
  · have hmask : c.phone.mask.bind Phone.Mask.ofText? = some mask := by
      show c.phoneFormat.bind Phone.Mask.ofText? = some mask
      rw [hmask, Option.bind_some, Phone.Mask.ofText?, dif_pos mask.notBlank]
    have hempty : n.status = .empty ↔ count = 0 :=
      (Phone.status_eq_empty_iff hmask hcode).trans List.length_eq_zero_iff.symm
    have hincomplete : n.status = .incomplete ↔ 0 < count ∧ count < mask.slots :=
      Phone.status_eq_incomplete_iff hmask hcode
    have hcomplete : n.status = .complete
        ↔ 0 < count ∧ count = mask.slots ∧ c.validatePhone input = true :=
      Phone.status_eq_complete_iff hmask hcode
    refine ⟨hempty, hincomplete, hcomplete, ?_⟩
    rw [Phone.status_eq_invalid_iff, ne_eq, ne_eq, ne_eq, hempty, hincomplete, hcomplete]

/-- A mask with decoration, and an input with a digit that is none of the ten; white space around it
is trimmed for the pattern and shown nowhere. -/
theorem Country.analyzePhone_agrees_padded :
    let c : Country :=
      { phoneFormat := some "(##) #", phoneRegexp := some "^\\\\d{2} \\\\d$",
        phoneCountryCode := some "+7" }
    let mask : Phone.Mask := ⟨"(##) #", by decide⟩
    c.phoneFormat = some mask.text ∧ Text.nonBlank? c.phoneCountryCode = some "+7".toList
      ∧ c.validatePhone "12 3" = true
      ∧ (c.analyzePhone "\t12 3\u3000").status = .complete
      ∧ (c.analyzePhone "\t12 3\u3000").international = "+7 (12) 3".toList
      ∧ (c.analyzePhone "12٣").status = .incomplete := by
  intro c mask
  have hmask : c.phoneFormat = some mask.text := rfl
  have hcode : Text.nonBlank? c.phoneCountryCode = some "+7".toList := rfl
  have hvalid : c.validatePhone "12 3" = true := by decide +kernel
  obtain ⟨-, hstatus, hformat, -, -, -, hcalling, -, hpadded⟩ := c.analyzePhone_agrees "12 3"
  obtain ⟨-, -, hcomplete, -⟩ := hstatus mask "+7" hmask hcode
  have hdone : (c.analyzePhone "12 3").status = .complete :=
    hcomplete.mpr ⟨by decide, by decide, hvalid⟩
  obtain ⟨hsame, hshown⟩ := hpadded "\t" "\u3000" (by decide) (by decide)
  obtain ⟨-, hother, -⟩ := c.analyzePhone_agrees "12٣"
  refine ⟨hmask, hcode, hvalid, hsame.trans hdone, ?_, ?_⟩
  · refine (hshown (Or.inr hdone)).2.trans ?_
    rw [hcalling (Or.inr hdone), hformat (by rw [hdone]; decide)]
    rfl
  · exact (hother mask "+7" hmask hcode).2.1.mpr ⟨by decide, by decide⟩

end Gazetteer
