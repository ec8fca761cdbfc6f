/-
# Gazetteer.Country.Currency -- amounts in a country's currency

An amount is the minus sign of a negative one, the currency symbol, and the digits, with as many
fraction digits as the currency has minor units. There is no grouping of digits. Without a currency
the amount is the plain number: the fewest digits that read back, never with an exponent.
-/
import Gazetteer.Country.Basic
import Gazetteer.Decimal.Fixed
import Gazetteer.Decimal.Shortest

namespace Gazetteer.Currency

/-! ## Minor units -/

/-- The currencies without minor units. -/
def withoutMinorUnits : List Text :=
  ["BIF", "CLP", "DJF", "GNF", "ISK", "JPY", "KMF", "KRW", "PYG", "RWF", "UGX", "UYI", "VND",
    "VUV", "XAF", "XOF", "XPF"]

/-- The currencies with a thousand minor units. -/
def withThousandMinorUnits : List Text := ["BHD", "IQD", "JOD", "KWD", "LYD", "OMR", "TND"]

/-- The number of fraction digits of a currency; two for a code that is not known. -/
def minorUnits (code : Text) : Nat :=
  let code := Text.upper (Text.trim code)
  if withoutMinorUnits.contains code then 0
  else if withThousandMinorUnits.contains code then 3
  else 2

/-- No more fraction digits than this are shown. -/
def maxFractionDigits : Nat := 20

/-- How an amount is to be formatted. -/
structure Format where
  /-- The number of fraction digits, in place of that of the currency. -/
  fractionDigits : Option Nat := none
  deriving DecidableEq, Repr

/-! ## Parts of an amount -/

/-- The kinds of part. -/
inductive PartKind where
  | minusSign
  | currency
  | integer
  | decimal
  | fraction
  | literal
  deriving DecidableEq, Repr

/-- The kinds of part in their order of mention. -/
def PartKind.all : List PartKind :=
  [.minusSign, .currency, .integer, .decimal, .fraction, .literal]

/-- The name of a kind of part. -/
def PartKind.name : PartKind → Text
  | .minusSign => "minusSign"
  | .currency => "currency"
  | .integer => "integer"
  | .decimal => "decimal"
  | .fraction => "fraction"
  | .literal => "literal"

/-- A piece of a formatted amount. -/
structure Part where
  kind : PartKind
  value : Text
  deriving DecidableEq, Repr

/-- The amount as a plain number. Both zeros are "0". -/
def plainNumber (amount : Binary64) : Text :=
  if amount.isNaN then "NaN"
  else if amount.isZero then "0"
  else
    (if amount.negative then ['-'] else []) ++
      (if amount.isFinite then (Decimal.shortest amount).plain else "Infinity")

/-- The sign, symbol and digits of a finite amount. -/
def finiteParts (amount : Binary64) (symbol : Text) (digits : Nat) : List Part :=
  let units := Decimal.fixedUnits amount digits
  let fraction := Decimal.fractionPart units digits
  (if amount.isBelowZero then [⟨.minusSign, "-"⟩] else [])
    ++ (if symbol.isEmpty then [] else [⟨.currency, symbol⟩])
    ++ [⟨.integer, Decimal.wholePart units digits⟩]
    ++ (if fraction.isEmpty then [] else [⟨.decimal, "."⟩, ⟨.fraction, fraction⟩])

/-- The parts of an amount. Without a currency, and for an amount that is not finite, there is one
part that holds it all. -/
def partsWith (amount : Binary64) (c : Country) (format : Format) : List Part :=
  match Text.nonBlank? c.currency with
  | none => [⟨.literal, plainNumber amount⟩]
  | some code =>
    if amount.isFinite then
      finiteParts amount c.symbol
        (min (format.fractionDigits.getD (minorUnits code)) maxFractionDigits)
    else [⟨.literal, c.symbol ++ plainNumber amount⟩]

/-- The parts of an amount in the usual format. -/
def parts (amount : Binary64) (c : Country) : List Part := partsWith amount c {}

/-- The formatted amount. -/
def formatWith (amount : Binary64) (c : Country) (format : Format) : Text :=
  (partsWith amount c format).flatMap Part.value

/-- The amount in the usual format. -/
def format (amount : Binary64) (c : Country) : Text := formatWith amount c {}

end Gazetteer.Currency
