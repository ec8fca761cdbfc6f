/-
# Gazetteer.Command.Arguments -- reading the arguments of a call

Arguments are options and values in any order. The first value names the command; options before it
belong to the call, and those behind it to the command, where they count more. An option is written
`--name` or with one letter, `-n`. Its value is the next argument, or stands in the same argument:
`--name=value`, `-nvalue` or `-n=value`. An argument that starts with a dash is no value unless it
stands behind `--`, is a single dash, or is a number where one is expected. No option but `-c` may
be given twice to the same side.
-/
import Gazetteer.Command.Basic
import Gazetteer.Decimal.Reading

namespace Gazetteer.Command

/-! ## Failures -/

/-- Why the arguments make no call. -/
inductive UsageError where
  | noCommand
  | unknownCommand (given : Text)
  | unknownOption (given : Text)
  /-- An option stands without the value that it takes. -/
  | missingValue (option : Text)
  /-- An option stands with a value though it takes none. -/
  | needlessValue (option : Text)
  | repeatedOption (option : Text)
  | missingArgument (name : Text)
  | needlessArgument (given : Text)
  | badComponent (e : Address.ComponentError)
  | badAmount (given : Text)
  deriving DecidableEq, Repr

/-- What is told about arguments that make no call. -/
def UsageError.message : UsageError → Text
  | .noCommand => "a command is required"
  | .unknownCommand given => "there is no command '" ++ given ++ "'"
  | .unknownOption given => "there is no option '" ++ given ++ "' here"
  | .missingValue option => "a value is required for '" ++ option ++ "'"
  | .needlessValue option => "'" ++ option ++ "' takes no value"
  | .repeatedOption option => "'" ++ option ++ "' cannot be used twice"
  | .missingArgument name => "the argument <" ++ name ++ "> is required"
  | .needlessArgument given => "the argument '" ++ given ++ "' is not expected"
  | .badComponent e => e.message
  | .badAmount given => "'" ++ given ++ "' is not a number"

/-! ## One argument -/

/-- What an argument looks like. -/
inductive Look where
  /-- The two dashes behind which all are values. -/
  | escape
  | long (name : Text) (value : Option Text)
  | short (letter : Char) (value : Option Text)
  | plain
  deriving DecidableEq, Repr

/-- The value that stands behind the letter of an option; an equals sign before it is no part of
it. -/
def attachedValue : Text → Option Text
  | [] => none
  | '=' :: value => some value
  | value => some value

/-- Looks at an argument. -/
def look : Text → Look
  | ['-', '-'] => .escape
  | '-' :: '-' :: rest =>
    match Text.cut? "=" rest with
    | some (name, value) => .long name (some value)
    | none => .long rest none
  | '-' :: letter :: rest => .short letter (attachedValue rest)
  | _ => .plain

/-- Whether some characters go on with a number; the flags say whether a digit came before, and
whether a point or an exponent may still come. -/
def isNumberRest (start pointAllowed exponentAllowed : Bool) : Text → Bool
  | [] => true
  | c :: rest =>
    if c.isDigit then isNumberRest false pointAllowed exponentAllowed rest
    else if c = '.' then
      !start && pointAllowed && isNumberRest false false exponentAllowed rest
    else if c = 'e' then
      !start && exponentAllowed && !rest.isEmpty && isNumberRest false false false rest
    else false

/-- Whether an argument is a number below zero: a dash, and digits with at most one point in front
of at most one exponent without a sign. -/
def isNegativeNumber : Text → Bool
  | '-' :: rest => isNumberRest true true true rest
  | _ => false

/-! ## Options -/

/-- The options that take a value. -/
inductive ValueOption where
  | input
  | filter
  | component
  deriving DecidableEq, Repr

/-- The long name of an option. -/
def ValueOption.name : ValueOption → Text
  | .input => "input"
  | .filter => "filter"
  | .component => "component"

/-- The letter of an option. -/
def ValueOption.letter : ValueOption → Char
  | .input => 'i'
  | .filter => 'f'
  | .component => 'c'

/-- The options that take a value before a command, or behind one. -/
def valueOptions : Option Verb → List ValueOption
  | some .address => [.input, .filter, .component]
  | _ => [.input, .filter]

/-- The options that were given to one side. -/
structure Options where
  input : Option Text := none
  filter : Option Text := none
  json : Bool := false
  components : List (Address.Field × Text) := []

/-- Gives an option its value. -/
def Options.give (o : Options) (option : ValueOption) (value : Text) :
    Except UsageError Options :=
  match option with
  | .input =>
    if o.input.isSome then .error (.repeatedOption option.name)
    else .ok { o with input := some value }
  | .filter =>
    if o.filter.isSome then .error (.repeatedOption option.name)
    else .ok { o with filter := some value }
  | .component =>
    match Address.parseComponent value with
    | .ok c => .ok { o with components := o.components ++ [c] }
    | .error e => .error (.badComponent e)

/-- Asks for JSON. -/
def Options.giveJson (o : Options) : Except UsageError Options :=
  if o.json then .error (.repeatedOption "json") else .ok { o with json := true }

/-! ## One side of a call -/

/-- What was read of one side of a call. -/
structure Side where
  options : Options := {}
  /-- An option whose value must be the next argument. -/
  pending : Option ValueOption := none
  values : List Text := []
  /-- All that follows are values. -/
  escaped : Bool := false

namespace Side

/-- No option may wait for its value. -/
def settled (s : Side) : Except UsageError Side :=
  match s.pending with
  | some option => .error (.missingValue option.name)
  | none => .ok s

/-- Takes an option with its value, or lets it wait for one. -/
def takeOption (s : Side) (option : ValueOption) (value : Option Text) :
    Except UsageError Side := do
  let s ← s.settled
  match value with
  | none => pure { s with pending := some option }
  | some value => pure { s with options := ← s.options.give option value }

/-- Takes an option written with its long name. -/
def takeLong (s : Side) (verb : Option Verb) (name : Text) (value : Option Text) :
    Except UsageError Side := do
  match (valueOptions verb).find? (fun o => o.name == name), value with
  | some option, value => s.takeOption option value
  | none, value =>
    if name ≠ "json".toList then .error (.unknownOption name)
    else if value.isSome then .error (.needlessValue name)
    else
      let s ← s.settled
      pure { s with options := ← s.options.giveJson }

/-- Takes an option written with its letter. -/
def takeShort (s : Side) (verb : Option Verb) (letter : Char) (value : Option Text) :
    Except UsageError Side :=
  match (valueOptions verb).find? (fun o => o.letter == letter) with
  | some option => s.takeOption option value
  | none => .error (.unknownOption [letter])

/-- Takes a value, for the option that waits for one, or else for the side itself. -/
def takeValue (s : Side) (value : Text) : Except UsageError Side := do
  match s.pending with
  | some option => pure { s with options := ← s.options.give option value, pending := none }
  | none => pure { s with values := s.values ++ [value] }

/-- Whether an argument is a number that the command takes as it is. -/
def isExpectedNumber (s : Side) (verb : Option Verb) (argument : Text) : Bool :=
  verb.any (·.takesNumber s.values.length) && isNegativeNumber argument

/-- Takes one argument. -/
def take (verb : Option Verb) (s : Side) (argument : Text) : Except UsageError Side :=
  if s.escaped || s.isExpectedNumber verb argument then s.takeValue argument
  else
    match look argument with
    | .escape => (fun s => { s with escaped := true }) <$> s.settled
    | .long name value => s.takeLong verb name value
    | .short letter value => s.takeShort verb letter value
    | .plain => s.takeValue argument

end Side

/-! ## The whole call -/

/-- Reads the side before the command: its options, the command, and the arguments behind it. -/
def readFront (s : Side) : List Text → Except UsageError (Options × Verb × List Text)
  | [] => .error .noCommand
  | argument :: rest =>
    match s.take none argument with
    | .error e => .error e
    | .ok s =>
      match s.values with
      | [] => readFront s rest
      | word :: _ =>
        match if s.escaped then none else Verb.ofWord? word with
        | some verb => .ok (s.options, verb, rest)
        | none => .error (.unknownCommand word)

/-- Reads the side behind a command. -/
def readBack (verb : Verb) (arguments : List Text) : Except UsageError (Options × List Text) := do
  let s ← arguments.foldlM (Side.take (some verb)) {}
  let s ← s.settled
  pure (s.options, s.values)

/-- The amount that an argument writes. -/
def amountOf (t : Text) : Except UsageError Binary64 :=
  match Decimal.read? t with
  | some x => .ok x
  | none => .error (.badAmount t)

/-- A command from its values. -/
def build (verb : Verb) (components : List (Address.Field × Text)) (values : List Text) :
    Except UsageError Command :=
  match verb, values with
  | .stats, [] => .ok .stats
  | .countries, [] => .ok .countries
  | .country, [code] => .ok (.country code)
  | .group, [id] => .ok (.group id)
  | .languages, [code] => .ok (.languages code)
  | .phone, [code, number] => .ok (.phone code number)
  | .address, [code] => .ok (.address code components)
  | .fields, [code] => .ok (.fields code)
  | .currency, [code, amount] => (.currency code) <$> amountOf amount
  | .postal, [code, postcode] => .ok (.postal code postcode)
  | verb, values =>
    match verb.argumentNames.drop values.length, values.drop verb.argumentNames.length with
    | name :: _, _ => .error (.missingArgument name)
    | [], given :: _ => .error (.needlessArgument given)
    | [], [] => .error .noCommand

/-- Reads the arguments of a call. -/
def Invocation.ofArguments (arguments : List Text) : Except UsageError Invocation := do
  let (front, verb, rest) ← readFront {} arguments
  let (back, values) ← readBack verb rest
  let command ← build verb back.components values
  pure {
    input := back.input <|> front.input
    filter := back.filter <|> front.filter
    json := back.json || front.json
    command }

end Gazetteer.Command
