/-
# Gazetteer.Proofs.Command.JsonFlag -- what `--json` changes besides the layout

A call that is put together without `--json` is put together with it as well, and differs in the
flag only: while the arguments are read, nothing looks at the flag but the flag itself. The dataset
is loaded, the country and the group are found, and the template is looked for before the layout
counts. So the two calls fail alike -- but for a postal code that is not valid: its lines come with
a failure, its JSON value does not.
-/
import Gazetteer.Command.Answer
import Gazetteer.Command.Arguments

namespace Gazetteer.Command

/-! ## Reading the arguments -/

/-- The options together with `--json`. -/
def Options.asked (o : Options) : Options := { o with json := true }

/-- The side together with `--json`. -/
def Side.asked (s : Side) : Side := { s with options := s.options.asked }

/-- The other options go in as they do without the flag. -/
theorem Options.give_asked {o o' : Options} {option : ValueOption} {value : Text}
    (h : o.give option value = .ok o') :
    o'.json = o.json ∧ o.asked.give option value = .ok o'.asked := by
  cases option with
  | input =>
    rw [give] at h ⊢
    split at h
    · exact absurd h (by simp)
    · rename_i hnone
      obtain rfl := Except.ok.inj h
      exact ⟨rfl, if_neg hnone⟩
  | filter =>
    rw [give] at h ⊢
    split at h
    · exact absurd h (by simp)
    · rename_i hnone
      obtain rfl := Except.ok.inj h
      exact ⟨rfl, if_neg hnone⟩
  | component =>
    rw [give] at h ⊢
    cases hparse : Address.parseComponent value with
    | error e => simp [hparse] at h
    | ok c =>
      simp only [hparse, Except.ok.injEq] at h
      subst h
      exact ⟨rfl, rfl⟩

namespace Side

/-- A step in reading a side that does not look at the flag. -/
def Blind (step : Side → Except UsageError Side) : Prop :=
  ∀ s s', step s = .ok s' → s'.options.json = s.options.json ∧ step s.asked = .ok s'.asked

/-- A step in reading a side that goes on as without the flag, unless it sets the flag itself. -/
def Follows (step : Side → Except UsageError Side) : Prop :=
  ∀ s s', step s = .ok s' → s'.options.json = false →
    s.options.json = false ∧ step s.asked = .ok s'.asked

theorem Blind.follows {step : Side → Except UsageError Side} (h : Blind step) : Follows step := by
  intro s s' hstep hplain
  obtain ⟨hsame, hasked⟩ := h s s' hstep
  exact ⟨hsame ▸ hplain, hasked⟩

theorem follows_error (e : UsageError) : Follows fun _ => .error e := by
  intro s s' h
  exact absurd h (by simp)

theorem settled_eq_ok {s : Side} (h : s.pending = none) : s.settled = .ok s := by
  rw [settled, h]

theorem settled_eq_error {s : Side} {option : ValueOption} (h : s.pending = some option) :
    s.settled = .error (.missingValue option.name) := by
  rw [settled, h]

theorem blind_takeOption (option : ValueOption) (value : Option Text) :
    Blind fun s => s.takeOption option value := by
  intro s s' h
  simp only [takeOption] at h ⊢
  cases hpending : s.pending with
  | some waiting => simp [settled_eq_error hpending, bind, Except.bind] at h
  | none =>
    have hasked : s.asked.settled = .ok s.asked := settled_eq_ok hpending
    simp only [settled_eq_ok hpending, hasked, bind, Except.bind, pure, Except.pure] at h ⊢
    cases value with
    | none =>
      obtain rfl := Except.ok.inj h
      exact ⟨rfl, rfl⟩
    | some value =>
      cases hgive : s.options.give option value with
      | error e => simp [hgive] at h
      | ok o =>
        obtain ⟨hjson, hgiven⟩ := Options.give_asked hgive
        have hoptions : s.asked.options.give option value = .ok o.asked := hgiven
        simp only [hgive] at h
        obtain rfl := Except.ok.inj h
        simp only [hoptions]
        exact ⟨hjson, rfl⟩

theorem blind_takeValue (value : Text) : Blind fun s => s.takeValue value := by
  intro s s' h
  have hasked : s.asked.pending = s.pending := rfl
  simp only [takeValue, hasked, bind, Except.bind, pure, Except.pure] at h ⊢
  cases hpending : s.pending with
  | none =>
    simp only [hpending] at h
    obtain rfl := Except.ok.inj h
    exact ⟨rfl, rfl⟩
  | some option =>
    cases hgive : s.options.give option value with
    | error e => simp [hpending, hgive] at h
    | ok o =>
      obtain ⟨hjson, hgiven⟩ := Options.give_asked hgive
      have hoptions : s.asked.options.give option value = .ok o.asked := hgiven
      simp only [hpending, hgive] at h
      obtain rfl := Except.ok.inj h
      simp only [hoptions]
      exact ⟨hjson, rfl⟩

theorem blind_escape :
    Blind fun s => (fun s => { s with escaped := true }) <$> s.settled := by
  intro s s' h
  cases hpending : s.pending with
  | some waiting => simp [settled_eq_error hpending, Functor.map, Except.map] at h
  | none =>
    have hasked : s.asked.settled = .ok s.asked := settled_eq_ok hpending
    simp only [settled_eq_ok hpending, hasked, Functor.map, Except.map] at h ⊢
    obtain rfl := Except.ok.inj h
    exact ⟨rfl, rfl⟩

/-- The flag is set where it stands, so that the side afterwards is not without it. -/
theorem json_of_takeLong {s s' : Side} {verb : Option Verb} {name : Text} {value : Option Text}
    (hnone : (valueOptions verb).find? (fun o => o.name == name) = none)
    (h : s.takeLong verb name value = .ok s') : s'.options.json = true := by
  simp only [takeLong, hnone] at h
  split at h
  · exact absurd h (by simp)
  split at h
  · exact absurd h (by simp)
  cases hpending : s.pending with
  | some waiting => simp [settled_eq_error hpending, bind, Except.bind] at h
  | none =>
    simp only [settled_eq_ok hpending, bind, Except.bind, Options.giveJson] at h
    split at h
    · exact absurd h (by simp)
    · rename_i o hjson
      split at hjson
      · exact absurd hjson (by simp)
      · obtain rfl := Except.ok.inj hjson
        obtain rfl := Except.ok.inj h
        rfl

theorem follows_takeLong (verb : Option Verb) (name : Text) (value : Option Text) :
    Follows fun s => s.takeLong verb name value := by
  intro s s' h hplain
  cases hfind : (valueOptions verb).find? (fun o => o.name == name) with
  | none => simp [json_of_takeLong hfind h] at hplain
  | some option =>
    simp only [takeLong, hfind] at h ⊢
    exact (blind_takeOption option value).follows s s' h hplain

theorem follows_takeShort (verb : Option Verb) (letter : Char) (value : Option Text) :
    Follows fun s => s.takeShort verb letter value := by
  unfold takeShort
  split
  · exact (blind_takeOption _ value).follows
  · exact follows_error _

/-- One argument is taken as without the flag, unless it is the flag. -/
theorem follows_take (verb : Option Verb) (argument : Text) :
    Follows fun s => s.take verb argument := by
  intro s s' h hplain
  have hvalues : (s.asked.escaped || s.asked.isExpectedNumber verb argument)
      = (s.escaped || s.isExpectedNumber verb argument) := rfl
  simp only [take, hvalues] at h ⊢
  split at h
  · rename_i hvalue
    rw [if_pos hvalue]
    exact (blind_takeValue argument).follows s s' h hplain
  · rename_i hvalue
    rw [if_neg hvalue]
    split at h <;> rename_i hlook
    · exact blind_escape.follows s s' h hplain
    · exact follows_takeLong verb _ _ s s' h hplain
    · exact follows_takeShort verb _ _ s s' h hplain
    · exact (blind_takeValue argument).follows s s' h hplain

end Side

/-- The side before the command is read as without the flag, unless it holds the flag. -/
theorem readFront_asked {arguments : List Text} {s : Side} {o : Options} {verb : Verb}
    {rest : List Text} (h : readFront s arguments = .ok (o, verb, rest)) (hplain : o.json = false) :
    s.options.json = false ∧ readFront s.asked arguments = .ok (o.asked, verb, rest) := by
  induction arguments generalizing s with
  | nil => simp [readFront] at h
  | cons argument arguments ih =>
    rw [readFront] at h ⊢
    cases htake : s.take none argument with
    | error e => simp [htake] at h
    | ok t =>
      simp only [htake] at h
      cases hvalues : t.values with
      | nil =>
        simp only [hvalues] at h
        obtain ⟨ht, hread⟩ := ih h
        obtain ⟨hs, hasked⟩ := Side.follows_take none argument s t htake ht
        have hnone : t.asked.values = [] := hvalues
        refine ⟨hs, ?_⟩
        simp only [hasked, hnone, hread]
      | cons word words =>
        simp only [hvalues] at h
        cases hword : if t.escaped then none else Verb.ofWord? word with
        | none => simp [hword] at h
        | some v =>
          simp only [hword, Except.ok.injEq, Prod.mk.injEq] at h
          obtain ⟨rfl, rfl, rfl⟩ := h
          obtain ⟨hs, hasked⟩ := Side.follows_take none argument s t htake hplain
          have hnone : t.asked.values = word :: words := hvalues
          have hescaped : t.asked.escaped = t.escaped := rfl
          refine ⟨hs, ?_⟩
          simp only [hasked, hnone, hescaped, hword]
          rfl

namespace Invocation

/-- The call, to be answered in JSON. -/
def asked (i : Invocation) : Invocation := { i with json := true }

/-- Arguments that make a call without the flag make the same call when it is put in front. -/
theorem ofArguments_json {arguments : List Text} {i : Invocation}
    (h : ofArguments arguments = .ok i) (hplain : i.json = false) :
    ofArguments ("--json".toList :: arguments) = .ok i.asked := by
  have hstart : readFront {} ("--json".toList :: arguments)
      = readFront ({} : Side).asked arguments := rfl
  simp only [ofArguments, hstart, bind, Except.bind, pure, Except.pure] at h ⊢
  cases hfront : readFront {} arguments with
  | error e => simp [hfront] at h
  | ok read =>
    obtain ⟨front, verb, rest⟩ := read
    simp only [hfront] at h
    cases hback : readBack verb rest with
    | error e => simp [hback] at h
    | ok read =>
      obtain ⟨back, values⟩ := read
      simp only [hback] at h
      cases hbuild : build verb back.components values with
      | error e => simp [hbuild] at h
      | ok command =>
        simp only [hbuild] at h
        obtain rfl := Except.ok.inj h
        obtain ⟨hbackPlain, hfrontPlain⟩ := Bool.or_eq_false_iff.mp hplain
        obtain ⟨-, hasked⟩ := readFront_asked hfront hfrontPlain
        simp only [hasked, hback, hbuild, Options.asked, asked, Bool.or_true]

/-! ## Carrying out a call -/

/-- The call checks a postal code that is not valid in its country. -/
def ChecksBadPostcode [Pattern.SizeLimit] (i : Invocation) (files : Files) : Prop :=
  ∃ code postcode d c, i.command = .postal code postcode ∧ i.load files = .ok d
    ∧ d.country? code = some c ∧ c.validatePostalCode postcode = false

/-- Only the check of a postal code answers with a complaint. -/
theorem complaint_ne_none_iff [Pattern.SizeLimit] {d : Dataset} {command : Command} {a : Answer}
    (h : command.answer d = .ok a) :
    a.complaint ≠ none ↔ ∃ code postcode c, command = .postal code postcode
      ∧ d.country? code = some c ∧ c.validatePostalCode postcode = false := by
  have hcountry : ∀ {code : Text} {g : Country → Answer},
      g <$> countryOf d code = .ok a → ∃ c, d.country? code = some c ∧ a = g c := by
    intro code g hg
    rw [countryOf] at hg
    cases hfind : d.country? code with
    | none => simp [hfind, Functor.map, Except.map] at hg
    | some c => exact ⟨c, rfl, by simpa [hfind, Functor.map, Except.map] using hg.symm⟩
  cases command with
  | stats | countries =>
    obtain rfl := Except.ok.inj h
    simp [statsAnswer, countriesAnswer]
  | country | languages | phone | fields | currency =>
    obtain ⟨c, -, rfl⟩ := hcountry h
    simp [countryAnswer, languagesAnswer, phoneAnswer, fieldsAnswer, currencyAnswer]
  | group id =>
    cases hgroup : groupOf d id with
    | error f => simp [answer, hgroup, Functor.map, Except.map] at h
    | ok g =>
      obtain rfl : groupAnswer g (d.inGroup g.id) = a := by
        simpa [answer, hgroup, Functor.map, Except.map] using h
      simp [groupAnswer]
  | address code components =>
    simp only [answer, bind, Except.bind, pure, Except.pure] at h
    split at h
    · exact absurd h (by simp)
    · split at h
      · obtain rfl := Except.ok.inj h
        simp [addressAnswer]
      · exact absurd h (by simp)
  | postal code postcode =>
    obtain ⟨c, hc, rfl⟩ := hcountry h
    constructor
    · intro hcomplaint
      refine ⟨code, postcode, c, rfl, hc, ?_⟩
      cases hvalid : c.validatePostalCode postcode with
      | false => rfl
      | true => simp [postalAnswer, hvalid] at hcomplaint
    · rintro ⟨code', postcode', c', hcommand, hc', hinvalid⟩
      obtain ⟨rfl, rfl⟩ := Command.postal.inj hcommand
      obtain rfl := Option.some.inj (hc.symm.trans hc')
      simp [postalAnswer, hinvalid]

theorem run_of_answer [Pattern.SizeLimit] {i : Invocation} {files : Files} {d : Dataset}
    {a : Answer} (hd : i.load files = .ok d) (ha : i.command.answer d = .ok a) :
    i.run files = a.outcome i.json ∧ i.asked.run files = a.outcome true := by
  have hload : i.asked.load files = .ok d := hd
  have hcommand : i.asked.command = i.command := rfl
  constructor
  · rw [run, hd]
    simp only [ha]
  · rw [run, hload, hcommand]
    simp only [ha]
    rfl

/-- A call that has no answer fails before the layout counts. -/
theorem run_asked_of_no_answer [Pattern.SizeLimit] {i : Invocation} {files : Files}
    (h : ∀ d a, i.load files = .ok d → i.command.answer d ≠ .ok a) :
    i.asked.run files = i.run files := by
  have hload : i.asked.load files = i.load files := rfl
  have hcommand : i.asked.command = i.command := rfl
  rw [run, run, hload, hcommand]
  cases hd : i.load files with
  | error e => rfl
  | ok d =>
    cases ha : i.command.answer d with
    | error f => simp only [ha]
    | ok a => exact absurd ha (h d a hd)

/-- **What `--json` changes.** Arguments that make a call without `--json` make the same call with
it in front, to be answered in JSON. Whatever the files hold, both calls fail for the same reason or
neither fails, as long as the call does not check a postal code that is not valid: then the exit
code is 1 without `--json`, and 0 with it. -/
theorem run_json [Pattern.SizeLimit] {arguments : List Text} {i : Invocation}
    (h : ofArguments arguments = .ok i) (hplain : i.json = false) (files : Files) :
    ofArguments ("--json".toList :: arguments) = .ok i.asked
      ∧ (¬ i.ChecksBadPostcode files → (i.asked.run files).failure = (i.run files).failure)
      ∧ (i.ChecksBadPostcode files → (i.asked.run files).code = 0 ∧ (i.run files).code = 1) := by
  refine ⟨ofArguments_json h hplain, fun hgood => ?_, ?_⟩
  · by_cases hanswer : ∃ d a, i.load files = .ok d ∧ i.command.answer d = .ok a
    · obtain ⟨d, a, hd, ha⟩ := hanswer
      obtain ⟨hrun, hasked⟩ := run_of_answer hd ha
      have hnone : a.complaint = none := by
        cases hcomplaint : a.complaint with
        | none => rfl
        | some f =>
          obtain ⟨code, postcode, c, hpostal, hc, hinvalid⟩ :=
            (complaint_ne_none_iff ha).mp (by simp [hcomplaint])
          exact absurd ⟨code, postcode, d, c, hpostal, hd, hc, hinvalid⟩ hgood
      rw [hrun, hasked, hplain]
      exact hnone.symm
    · exact congrArg Outcome.failure
        (run_asked_of_no_answer fun d a hd ha => hanswer ⟨d, a, hd, ha⟩)
  · rintro ⟨code, postcode, d, c, hpostal, hd, hc, hinvalid⟩
    have hanswer : i.command.answer d = .ok (postalAnswer c postcode) := by
      simp [hpostal, answer, countryOf, hc, Functor.map, Except.map]
    obtain ⟨hrun, hasked⟩ := run_of_answer hd hanswer
    rw [hrun, hasked, hplain]
    simp [Answer.outcome, Outcome.code, postalAnswer, hinvalid]

/-- A postal code that is not valid: the call fails, and does not with `--json`. -/
theorem run_json_badPostcode :
    let i : Invocation := { command := .postal "US" "x" }
    let files : Files := fun _ => .error .missing
    ofArguments ["postal", "US", "x"] = .ok i
      ∧ ofArguments ["--json", "postal", "US", "x"] = .ok i.asked
      ∧ (i.run files).code = 1 ∧ (i.asked.run files).code = 0 := by
  intro i files
  have hread : ofArguments ["postal", "US", "x"] = .ok i := rfl
  obtain ⟨hasked, -, hcodes⟩ := run_json hread rfl files
  have hbad : i.ChecksBadPostcode files := by
    refine ⟨"US", "x", Dataset.embedded, Embedded.unitedStates.normal, rfl, rfl, ?_, ?_⟩
    · decide +kernel
    · decide +kernel
  exact ⟨hread, hasked, (hcodes hbad).2, (hcodes hbad).1⟩

end Invocation

end Gazetteer.Command
