/-
# Gazetteer.Command.Answer -- what the program answers

Every command answers with a JSON value and with lines of text, of which a call shows one. The lines
of a postal code that is not valid come with a failure; its JSON value does not.
-/
import Gazetteer.Command.Basic
import Gazetteer.Command.Failure
import Gazetteer.Address.Form
import Gazetteer.Dataset.Lookup
import Gazetteer.Phone.Form

namespace Gazetteer.Command

open Json (Form)

/-! ## Answers -/

/-- The answer of a command. -/
structure Answer where
  value : Json
  lines : List Text
  /-- A failure that is reported below the lines. -/
  complaint : Option Failure := none

/-- The country with a code. -/
def countryOf (d : Dataset) (code : Text) : Except Failure Country :=
  match d.country? code with
  | some c => .ok c
  | none => .error (.noCountry code)

/-- The group with an id. -/
def groupOf (d : Dataset) (id : Text) : Except Failure Group :=
  match d.group? id with
  | some g => .ok g
  | none => .error (.noGroup id)

/-- A country in a list. -/
def listed (c : Country) : Text := c.name ++ " (" ++ c.alpha2 ++ ")"

/-! ## The commands -/

/-- The counts of a dataset. -/
def statsAnswer (s : Dataset.Stats) : Answer where
  value := Dataset.Stats.form.toJson s
  lines :=
    ["Database statistics:",
      "  Countries: " ++ Text.numeral s.countries,
      "  Languages: " ++ Text.numeral s.languages,
      "  Groups: " ++ Text.numeral s.groups]

/-- All countries. -/
def countriesAnswer (cs : List Country) : Answer where
  value := Country.form.list.toJson cs
  lines := cs.map listed

/-- A line with a label, if there is something to show. -/
def labelled (label : Text) (t : Option Text) : List Text := (t.map (label ++ ·)).toList

/-- A country. -/
def countryAnswer (c : Country) : Answer where
  value := Country.form.toJson c
  lines :=
    ["Country: " ++ c.name,
      "Official name: " ++ c.official,
      "Alpha-2: " ++ c.alpha2,
      "Alpha-3: " ++ c.alpha3,
      "Phone Code: " ++ c.callingCode,
      "Currency: " ++ c.currencyCode ++ " " ++ c.symbol]
    ++ labelled "Flag: " c.flag
    ++ labelled "Phone format: " c.phonePlaceholder
    ++ ["Groups: " ++ Text.joined ", " c.groups]

/-- The members of a group. -/
def groupAnswer (g : Group) (members : List Country) : Answer where
  value := Country.form.list.toJson members
  lines :=
    (g.name ++ " (" ++ Text.numeral members.length ++ " loaded members):")
      :: members.map ("- " ++ listed ·)

/-- A language in a list. -/
def languageLine (l : Language) : Text :=
  l.code ++ ": " ++ l.name ++ " / " ++ l.nativeName ++ (if l.rtl then " [rtl]" else "")

/-- The languages of a country. -/
def languagesAnswer (ls : List Language) : Answer where
  value := Language.form.list.toJson ls
  lines := ls.map languageLine

/-- A phone number. -/
def phoneAnswer (n : Phone.Number) : Answer where
  value := Phone.Number.form.toJson n
  lines :=
    ["Status: " ++ n.status.name,
      "Formatted: " ++ n.formatted,
      "International: " ++ n.international]

/-- The lines of an address. -/
def addressAnswer (lines : List Text) : Answer := ⟨Form.text.list.toJson lines, lines, none⟩

/-- Some address fields. -/
def fieldsAnswer (fs : List Address.Field) : Answer where
  value := Address.Field.form.list.toJson fs
  lines := fs.map Address.Field.key

/-- A formatted amount. -/
def currencyAnswer (amount : Text) : Answer := ⟨.text amount, [amount], none⟩

/-- The word for a postal code that is valid or not. -/
def verdict (valid : Bool) : Text := if valid then "valid" else "invalid"

/-- The verdict on a postal code. -/
def postalAnswer [Pattern.SizeLimit] (c : Country) (postcode : Text) : Answer :=
  let valid := c.validatePostalCode postcode
  let format : Text := match c.postalPlaceholder with
    | some format => " (format " ++ format ++ ")"
    | none => []
  { value := .boolean valid
    lines := [postcode ++ ": " ++ verdict valid ++ format]
    complaint := if valid then none else some (.badPostcode postcode c.name) }

/-- The answer of a command. -/
def answer [Pattern.SizeLimit] (d : Dataset) : Command → Except Failure Answer
  | .stats => .ok (statsAnswer d.stats)
  | .countries => .ok (countriesAnswer d.countries)
  | .country code => countryAnswer <$> countryOf d code
  | .group id => (fun g => groupAnswer g (d.inGroup g.id)) <$> groupOf d id
  | .languages code => (fun c => languagesAnswer (d.languagesOf c)) <$> countryOf d code
  | .phone code number => (fun c => phoneAnswer (c.analyzePhone number)) <$> countryOf d code
  | .address code components => do
    let c ← countryOf d code
    match c.addressLines (.ofPairs components) with
    | some lines => pure (addressAnswer lines)
    | none => .error (.noTemplate c.name)
  | .fields code => (fun c => fieldsAnswer c.requiredFields) <$> countryOf d code
  | .currency code amount =>
    (fun c => currencyAnswer (Currency.format amount c)) <$> countryOf d code
  | .postal code postcode => (fun c => postalAnswer c postcode) <$> countryOf d code

/-! ## Calls -/

/-- What a call leaves: its output, and a report if it fails. -/
structure Outcome where
  output : Text
  failure : Option Failure
  deriving DecidableEq, Repr

namespace Outcome

/-- The exit code. -/
def code (o : Outcome) : Nat := if o.failure.isSome then 1 else 0

/-- What is told about the failure. -/
def report (o : Outcome) : Text := o.failure.elim [] Failure.report

end Outcome

/-- What a call shows of an answer. -/
def Answer.outcome (json : Bool) (a : Answer) : Outcome :=
  if json then ⟨a.value.pretty 0 ++ ['\n'], none⟩ else ⟨Text.lines a.lines, a.complaint⟩

namespace Invocation

/-- The codes that the filter of a call lists; blank ones do not count. -/
def codes (i : Invocation) : Document.Filter :=
  i.filter.map fun t => ((Text.splitOn "," t).map Text.trim).filter (fun code => !code.isEmpty)

/-- Opens the file with a path. -/
abbrev Files := Text → Except Storage.OpenFailure Storage.Opened

/-- Loads the dataset of a call. -/
def load (i : Invocation) (files : Files) : Except LoadError Dataset :=
  match i.input with
  | some path => Dataset.ofOpened path (files path) i.codes
  | none => Dataset.ofEmbedded i.codes

/-- Carries out a call. -/
def run [Pattern.SizeLimit] (i : Invocation) (files : Files) : Outcome :=
  match i.load files with
  | .error e => ⟨[], some (.load i.input e)⟩
  | .ok d =>
    match i.command.answer d with
    | .error f => ⟨[], some f⟩
    | .ok a => a.outcome i.json

end Invocation

end Gazetteer.Command
