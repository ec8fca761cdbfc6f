/-
# Gazetteer.Proofs.Command.PlainAmount -- the answer as an amount again

In a country without a currency the answer to an amount may be given back as the amount: the program
takes it as a value, also when it starts with a dash, and answers the same. What it takes for a number
below zero is the first step, that no other argument can stand in the place of the amount the second.
-/
import Gazetteer.Command.Answer
import Gazetteer.Command.Arguments
import Gazetteer.Proofs.Country.PlainNumber

namespace Gazetteer.Command

open Decimal (IsPlain pointed)

/-! ## Numbers as arguments -/

variable {whole fraction : Text}

/-- Digits leave the reader of a number where it is, except that it has started. -/
theorem isNumberRest_append {digits : Text} (hdigits : ∀ c ∈ digits, c.isDigit = true)
    (hne : digits ≠ []) (start pointAllowed exponentAllowed : Bool) (rest : Text) :
    isNumberRest start pointAllowed exponentAllowed (digits ++ rest)
      = isNumberRest false pointAllowed exponentAllowed rest := by
  induction digits generalizing start with
  | nil => exact absurd rfl hne
  | cons c digits ih =>
    rw [List.cons_append, isNumberRest, if_pos (hdigits c List.mem_cons_self)]
    cases digits with
    | nil => rfl
    | cons c' digits =>
      exact ih (fun ch hch => hdigits ch (List.mem_cons_of_mem c hch)) (by simp) false

theorem isNegativeNumber_pointed (h : IsPlain whole fraction) :
    isNegativeNumber ('-' :: pointed whole fraction) = true := by
  rw [isNegativeNumber, pointed, isNumberRest_append h.isNumeral.isDigit h.isNumeral.ne_nil]
  split_ifs with hempty
  · rfl
  · have hne : fraction ≠ [] := by simpa using hempty
    have hrest := isNumberRest_append h.isDigit hne false false true []
    rw [List.append_nil] at hrest
    simp [isNumberRest, hrest]

theorem look_of_isDigit {c : Char} (hc : c.isDigit = true) (t : Text) : look (c :: t) = .plain := by
  unfold look
  split <;> first
    | rfl
    | cases List.head_eq_of_cons_eq ‹_›
      exact absurd hc (by decide)

namespace Side

variable {s s' : Side}

/-- A plain number is taken as a value where an amount is expected. -/
theorem take_plainNumber {x : Binary64} (hx : x.isFinite = true) (hpending : s.pending = none)
    (hcount : s.values.length = 1) :
    s.take (some .currency) (Currency.plainNumber x)
      = .ok { s with values := s.values ++ [Currency.plainNumber x] } := by
  have hvalue : s.takeValue (Currency.plainNumber x)
      = .ok { s with values := s.values ++ [Currency.plainNumber x] } := by
    simp [takeValue, hpending, pure, Except.pure]
  have hdigit : ∀ c t, Currency.plainNumber x = c :: t → c.isDigit = true →
      s.take (some .currency) (Currency.plainNumber x)
        = s.takeValue (Currency.plainNumber x) := by
    intro c t hcons hc
    have hlook : look (Currency.plainNumber x) = .plain := by rw [hcons, look_of_isDigit hc]
    rw [take, hlook]
    split <;> rfl
  rw [← hvalue]
  cases hzero : x.isZero with
  | true => exact hdigit '0' [] (Currency.plainNumber_of_isZero hzero) rfl
  | false =>
    obtain ⟨whole, fraction, hplain, htext, -⟩ := Currency.plainNumber_spec hx hzero
    cases hsign : x.negative with
    | false =>
      obtain ⟨c, t, hcons, hc⟩ := hplain.exists_cons
      rw [hsign] at htext
      exact hdigit c t (htext.trans hcons) hc
    | true =>
      rw [hsign] at htext
      have hnumber : isNegativeNumber (Currency.plainNumber x) = true :=
        htext ▸ isNegativeNumber_pointed hplain
      rw [take, if_pos]
      simp [isExpectedNumber, Verb.takesNumber, hcount, hnumber]

theorem values_of_takeOption {option : ValueOption} {value : Option Text}
    (h : s.takeOption option value = .ok s') : s'.values = s.values := by
  cases hpending : s.pending with
  | some waiting => simp [takeOption, settled, hpending, bind, Except.bind] at h
  | none =>
    simp only [takeOption, settled, hpending, bind, Except.bind, pure, Except.pure] at h
    cases value with
    | none =>
      cases h
      rfl
    | some value =>
      cases hgive : s.options.give option value with
      | error e => simp [hgive] at h
      | ok o =>
        simp only [hgive] at h
        cases h
        rfl

theorem values_of_takeLong {verb : Option Verb} {name : Text} {value : Option Text}
    (h : s.takeLong verb name value = .ok s') : s'.values = s.values := by
  simp only [takeLong] at h
  split at h
  · exact values_of_takeOption h
  · split_ifs at h
    cases hpending : s.pending with
    | some waiting => simp [settled, hpending, bind, Except.bind] at h
    | none =>
      simp only [settled, hpending, bind, Except.bind, pure, Except.pure] at h
      cases hgive : s.options.giveJson with
      | error e => simp [hgive] at h
      | ok o =>
        simp only [hgive] at h
        cases h
        rfl

/-- An argument that no option waits for is taken as a value, or it brings no value. -/
theorem eq_of_take {verb : Option Verb} {argument : Text} (hpending : s.pending = none)
    (h : s.take verb argument = .ok s') :
    s'.values = s.values ∨ s' = { s with values := s.values ++ [argument] } := by
  have hvalue : s.takeValue argument = .ok { s with values := s.values ++ [argument] } := by
    simp [takeValue, hpending, pure, Except.pure]
  rw [take] at h
  split at h
  · exact .inr (Except.ok.inj (h.symm.trans hvalue))
  · split at h
    · simp only [settled, hpending, Functor.map, Except.map] at h
      cases h
      exact .inl rfl
    · exact .inl (values_of_takeLong h)
    · rw [takeShort] at h
      split at h
      · exact .inl (values_of_takeOption h)
      · cases h
    · exact .inr (Except.ok.inj (h.symm.trans hvalue))

end Side

/-! ## Calls with an amount -/

/-- The call that the options of the two sides and a command make. -/
def Invocation.ofSides (front back : Options) (command : Command) : Invocation where
  input := back.input <|> front.input
  filter := back.filter <|> front.filter
  json := back.json || front.json
  command := command

/-- The arguments name the command for amounts and a country, in any order with the options; the
amount is still to come. -/
def AwaitsAmount (before : List Text) (code : Text) : Prop :=
  ∃ front behind back, readFront {} before = .ok (front, .currency, behind)
    ∧ behind.foldlM (Side.take (some .currency)) {} = .ok back
    ∧ back.pending = none ∧ back.values = [code]

variable {before : List Text} {code : Text}

/-- More arguments behind a command are left to it. -/
theorem readFront_append {arguments : List Text} {s : Side} {o : Options} {verb : Verb}
    {rest : List Text} (h : readFront s arguments = .ok (o, verb, rest)) (more : List Text) :
    readFront s (arguments ++ more) = .ok (o, verb, rest ++ more) := by
  induction arguments generalizing s with
  | nil => simp [readFront] at h
  | cons argument arguments ih =>
    rw [List.cons_append]
    rw [readFront] at h ⊢
    cases htake : s.take none argument with
    | error e => simp [htake] at h
    | ok t =>
      simp only [htake] at h
      cases hvalues : t.values with
      | nil =>
        simp only [hvalues] at h ⊢
        exact ih h
      | cons word words =>
        simp only [hvalues] at h ⊢
        cases hword : if t.escaped then none else Verb.ofWord? word with
        | none => simp [hword] at h
        | some v =>
          simp only [hword, Except.ok.injEq, Prod.mk.injEq] at h ⊢
          obtain ⟨rfl, rfl, rfl⟩ := h
          exact ⟨rfl, rfl, rfl⟩

/-- With its last argument behind the country, a call is what the command makes of the values. -/
theorem ofArguments_append {front : Options} {behind : List Text} {back : Side}
    (hfront : readFront {} before = .ok (front, .currency, behind))
    (hbehind : behind.foldlM (Side.take (some .currency)) {} = .ok back) (t : Text) :
    Invocation.ofArguments (before ++ [t]) = (do
      let s ← back.take (some .currency) t
      let s ← s.settled
      let command ← build .currency s.options.components s.values
      pure (.ofSides front s.options command)) := by
  simp only [Invocation.ofArguments, readFront_append hfront, readBack, List.foldlM_append,
    hbehind, List.foldlM_cons, List.foldlM_nil, bind, Except.bind, pure, Except.pure]
  cases back.take (some .currency) t with
  | error e => rfl
  | ok s =>
    dsimp only
    cases s.settled with
    | error e => rfl
    | ok s => rfl

/-- An argument behind the country makes a call if it is taken as a value and is a number, and only
then. -/
theorem AwaitsAmount.exists_call (h : AwaitsAmount before code) :
    ∃ (front : Options) (back : Side), back.pending = none ∧ back.values = [code]
      ∧ (∀ t x, back.take (some .currency) t = .ok { back with values := back.values ++ [t] } →
        Decimal.read? t = some x →
        Invocation.ofArguments (before ++ [t])
          = .ok (.ofSides front back.options (.currency code x)))
      ∧ ∀ t i, Invocation.ofArguments (before ++ [t]) = .ok i →
        ∃ x, Decimal.read? t = some x ∧ i = .ofSides front back.options (.currency code x) := by
  obtain ⟨front, behind, back, hfront, hbehind, hpending, hvalues⟩ := h
  refine ⟨front, back, hpending, hvalues, fun t x htake hread => ?_, fun t i hi => ?_⟩
  · rw [ofArguments_append hfront hbehind, htake]
    simp [Side.settled, hpending, hvalues, build, amountOf, hread, bind, Except.bind, pure,
      Except.pure, Functor.map, Except.map]
  · rw [ofArguments_append hfront hbehind] at hi
    cases htake : back.take (some .currency) t with
    | error e => simp [htake, bind, Except.bind] at hi
    | ok s =>
      simp only [htake, bind, Except.bind, pure, Except.pure] at hi
      rcases Side.eq_of_take hpending htake with hsame | rfl
      -- Without a value the amount is missing.
      · rw [Side.settled] at hi
        split at hi
        · cases hi
        · rename_i hsettled
          split at hsettled
          · cases hsettled
          · cases hsettled
            simp [hsame, hvalues, build, Verb.argumentNames] at hi
      · cases hread : Decimal.read? t with
        | none =>
          simp [Side.settled, hpending, hvalues, build, amountOf, hread, Functor.map,
            Except.map] at hi
        | some x =>
          refine ⟨x, rfl, ?_⟩
          simp only [Side.settled, hpending, hvalues, build, amountOf, hread, Functor.map,
            Except.map, List.cons_append, List.nil_append] at hi
          exact (Except.ok.inj hi).symm

/-- The answer to an amount is its text. -/
theorem run_currency {i : Invocation} {files : Invocation.Files} {d : Dataset} {c : Country}
    {x : Binary64} (hi : i.command = .currency code x) (hd : i.load files = .ok d)
    (hc : d.country? code = some c) :
    i.run files = (currencyAnswer (Currency.format x c)).outcome i.json := by
  simp [Invocation.run, hd, hi, answer, countryOf, hc, Functor.map, Except.map]

/-! ## Plain numbers read back -/

/-- **Plain numbers read back.** Without a currency a zero is shown as "0", and any other finite
amount as its sign, digits with nothing superfluous, and no exponent. The amount is the double
nearest to the number that is shown, and is read of the text; no text that is read as the amount has
fewer significant digits. Given back as the amount, the text makes a call that is answered the
same. -/
theorem currency_readsBack {c : Country} (hc : Text.nonBlank? c.currency = none) {x : Binary64}
    (hx : x.isFinite = true) :
    (x.isZero = true → Currency.format x c = "0")
      ∧ (x.isZero = false →
        Decimal.read? (Currency.format x c) = some x
          ∧ (∀ t, Decimal.read? t = some x →
            Decimal.significantDigitsOf (Currency.format x c) ≤ Decimal.significantDigitsOf t)
          ∧ ∃ whole fraction, IsPlain whole fraction
            ∧ Currency.format x c = (if x.negative then ['-'] else []) ++ pointed whole fraction
            ∧ x.IsNearest (if x.negative then -Decimal.pointedValue whole fraction
              else Decimal.pointedValue whole fraction))
      ∧ ∀ before code amount i files d, AwaitsAmount before code →
        Invocation.ofArguments (before ++ [amount]) = .ok i → i.command = .currency code x →
        i.load files = .ok d → d.country? code = some c →
        (i.json = false → i.run files = ⟨Currency.format x c ++ "\n", none⟩)
          ∧ ∃ i', Invocation.ofArguments (before ++ [Currency.format x c]) = .ok i'
            ∧ i'.run files = i.run files := by
  simp only [Currency.format_of_no_currency hc]
  refine ⟨Currency.plainNumber_of_isZero, fun hzero => ⟨?_, fun t ht => ?_, ?_⟩, ?_⟩
  · exact Currency.read?_plainNumber hx hzero
  · exact Currency.significantDigitsOf_plainNumber_le hx hzero ht
  · obtain ⟨whole, fraction, hplain, htext, hcovers, -⟩ := Currency.plainNumber_spec hx hzero
    exact ⟨whole, fraction, hplain, htext, hcovers.isNearest hx hzero⟩
  · intro before code amount i files d hawaits hi hcommand hd hcountry
    have hrun := run_currency hcommand hd hcountry
    rw [Currency.format_of_no_currency hc] at hrun
    refine ⟨fun hjson => ?_, ?_⟩
    · rw [hrun, hjson]
      simp [Answer.outcome, currencyAnswer, Text.lines]
    · obtain ⟨front, back, hpending, hvalues, hmakes, honly⟩ := hawaits.exists_call
      obtain ⟨x', -, rfl⟩ := honly amount i hi
      obtain ⟨y, hread, hsame⟩ := Currency.exists_read?_plainNumber hx
      refine ⟨_, hmakes _ y (Side.take_plainNumber hx hpending (by simp [hvalues])) hread, ?_⟩
      -- The two calls differ in the amount alone.
      have hload : (Invocation.ofSides front back.options (.currency code y)).load files = .ok d := hd
      rw [run_currency rfl hload hcountry, Currency.format_of_no_currency hc, hsame, hrun]
      rfl

/-- In Antarctica, an amount whose text is given back as the amount, with its dash. -/
theorem currency_readsBack_negative :
    let c : Country := Embedded.antarctica.normal
    let x : Binary64 := .ofDecimal true 1 23
    let files : Invocation.Files := fun _ => .error .missing
    Text.nonBlank? c.currency = none ∧ x.isFinite = true
      ∧ Currency.format x c = "-100000000000000000000000"
      ∧ Decimal.read? "-100000000000000000000000" = some x
      ∧ ∃ i i', Invocation.ofArguments ["currency", "AQ", "-1e23"] = .ok i
        ∧ Invocation.ofArguments ["currency", "AQ", "-100000000000000000000000"] = .ok i'
        ∧ i'.run files = i.run files
        ∧ i.run files = ⟨"-100000000000000000000000\n", none⟩ := by
  intro c x files
  have hc : Text.nonBlank? c.currency = none := by decide +kernel
  have hx : x.isFinite = true := by decide +kernel
  have htext : Currency.format x c = "-100000000000000000000000" := by decide +kernel
  have hawaits : AwaitsAmount ["currency", "AQ"] "AQ" :=
    ⟨{}, ["AQ"], { values := ["AQ"] }, rfl, rfl, rfl, rfl⟩
  have hcall : Invocation.ofArguments ["currency", "AQ", "-1e23"]
      = .ok { command := .currency "AQ" x } := rfl
  obtain ⟨-, hreads, hcalls⟩ := currency_readsBack hc hx
  obtain ⟨hread, -⟩ := hreads (by decide +kernel)
  have hload : ({ command := .currency "AQ" x } : Invocation).load files = .ok Dataset.embedded := rfl
  have hcountry : Dataset.embedded.country? "AQ" = some c := by decide +kernel
  obtain ⟨hshown, i', hback, hsame⟩ :=
    hcalls ["currency", "AQ"] "AQ" "-1e23" _ files _ hawaits hcall rfl hload hcountry
  rw [htext] at hread hshown hback
  exact ⟨hc, hx, htext, hread, _, i', hcall, hback, hsame, hshown rfl⟩

end Gazetteer.Command
