/-
# Gazetteer.Dataset.Embedded -- the dataset that comes with the library

Ten countries, the languages they speak and the groups they form, as a document in the order in
which they are listed everywhere. Patterns are written with single backslashes, and templates part
by part; the records hold them in stored form.
-/
import Gazetteer.Address.Line
import Gazetteer.Dataset.Document

namespace Gazetteer.Embedded

/-! ## Ways to write -/

/-- The braces of a repetition, with its bounds. -/
def times (bounds : Text) : Text := '{' :: bounds ++ ['}']

/-- A pattern from its pieces, as records store it. -/
def pattern (pieces : List Text) : Option Text := some (Pattern.escape pieces.flatten)

/-- A template from its lines. -/
def template (lines : List Address.Line) : Option (List Text) :=
  some (lines.map Address.Line.written)

/-- Codes from lines of codes parted by spaces. -/
def codes (lines : List Text) : List Text := lines.flatMap Text.words

/-! ## Countries -/

/-- Antarctica. -/
def antarctica : Country where
  alpha2 := "AQ"
  alpha3 := "ATA"
  name := "Antarctica"
  officialName := some "Antarctica"
  currency := some ""
  currencySymbol := some ""
  phoneCountryCode := some "+672"
  tld := some ".aq"
  flag := some "🇦🇶"

/-- Australia. -/
def australia : Country where
  alpha2 := "AU"
  alpha3 := "AUS"
  name := "Australia"
  officialName := some "Commonwealth of Australia"
  languages := ["en"]
  groups := ["OECD", "G20"]
  currency := some "AUD"
  currencySymbol := some "$"
  phoneCountryCode := some "+61"
  phoneRegexp := pattern ["^\\d", times "4", "\\s?\\d", times "3", "\\s?\\d", times "3", "$"]
  phoneFormat := some "#### ### ###"
  postalCodeRegexp := pattern ["^\\d", times "4", "$"]
  postalCodeFormat := some "####"
  tld := some ".au"
  flag := some "🇦🇺"
  addressFormat := template [
    [.field .recipient],
    [.field .house],
    [.field .houseNumber, .plain " ", .field .road],
    [.firstField [.suburb, .city], .plain " ", .field .stateCode, .plain " ", .field .postcode],
    [.field .country]]

/-- Canada. -/
def canada : Country where
  alpha2 := "CA"
  alpha3 := "CAN"
  name := "Canada"
  officialName := some "Canada"
  languages := ["en", "fr"]
  groups := ["NATO", "G7", "OECD", "G20"]
  currency := some "CAD"
  currencySymbol := some "$"
  phoneCountryCode := some "+1"
  phoneRegexp := pattern ["^\\(?\\d", times "3", "\\)?[-.\\s]?\\d", times "3", "[-.\\s]?\\d",
    times "4", "$"]
  phoneFormat := some "(###) ###-####"
  postalCodeRegexp := pattern ["^[A-Za-z]\\d[A-Za-z] ?\\d[A-Za-z]\\d$"]
  postalCodeFormat := some "A#A #A#"
  tld := some ".ca"
  flag := some "🇨🇦"
  addressFormat := template [
    [.field .recipient],
    [.field .house],
    [.field .houseNumber, .plain " ", .field .road],
    [.firstField [.city, .suburb], .plain " ", .field .stateCode, .plain " ", .field .postcode],
    [.field .country]]

/-- Switzerland. -/
def switzerland : Country where
  alpha2 := "CH"
  alpha3 := "CHE"
  name := "Switzerland"
  officialName := some "Swiss Confederation"
  nativeNames := ["Schweiz", "Suisse", "Svizzera", "Svizra"]
  languages := ["de", "fr", "it", "rm"]
  groups := ["OECD"]
  currency := some "CHF"
  currencySymbol := some "CHF"
  phoneCountryCode := some "+41"
  phoneRegexp := pattern ["^\\d", times "2", "\\s?\\d", times "3", "\\s?\\d", times "2", "\\s?\\d",
    times "2", "$"]
  phoneFormat := some "## ### ## ##"
  postalCodeRegexp := pattern ["^\\d", times "4", "$"]
  postalCodeFormat := some "####"
  tld := some ".ch"
  flag := some "🇨🇭"
  addressFormat := template [
    [.field .recipient],
    [.field .house],
    [.field .road, .plain " ", .field .houseNumber],
    [.field .postcode, .plain " ", .firstField [.city, .postalTown]],
    [.field .country]]

/-- Germany. -/
def germany : Country where
  alpha2 := "DE"
  alpha3 := "DEU"
  name := "Germany"
  officialName := some "Federal Republic of Germany"
  nativeNames := ["Deutschland", "Bundesrepublik Deutschland"]
  languages := ["de"]
  groups := ["EU", "NATO", "G7", "OECD", "G20"]
  currency := some "EUR"
  currencySymbol := some "€"
  phoneCountryCode := some "+49"
  phoneRegexp := pattern ["^\\d", times "3,4", "\\s?\\d", times "7,8", "$"]
  phoneFormat := some "### ########"
  postalCodeRegexp := pattern ["^\\d", times "5", "$"]
  postalCodeFormat := some "#####"
  tld := some ".de"
  flag := some "🇩🇪"
  addressFormat := template [
    [.field .recipient],
    [.field .house],
    [.field .road, .plain " ", .field .houseNumber],
    [.field .postcode, .plain " ", .firstField [.city, .postalTown]],
    [.field .country]]

/-- France. -/
def france : Country where
  alpha2 := "FR"
  alpha3 := "FRA"
  name := "France"
  officialName := some "French Republic"
  nativeNames := ["France", "République française"]
  languages := ["fr"]
  groups := ["EU", "NATO", "G7", "OECD", "G20"]
  currency := some "EUR"
  currencySymbol := some "€"
  phoneCountryCode := some "+33"
  phoneRegexp := pattern ["^\\d", times "2", "\\s?\\d", times "2", "\\s?\\d", times "2", "\\s?\\d",
    times "2", "\\s?\\d", times "2", "$"]
  phoneFormat := some "## ## ## ## ##"
  postalCodeRegexp := pattern ["^\\d", times "5", "$"]
  postalCodeFormat := some "#####"
  tld := some ".fr"
  flag := some "🇫🇷"
  addressFormat := template [
    [.field .recipient],
    [.field .house],
    [.field .houseNumber, .plain " ", .field .road],
    [.field .postcode, .plain " ", .firstField [.city, .postalTown]],
    [.field .country]]

/-- United Kingdom. -/
def unitedKingdom : Country where
  alpha2 := "GB"
  alpha3 := "GBR"
  name := "United Kingdom"
  officialName := some "United Kingdom of Great Britain and Northern Ireland"
  languages := ["en"]
  groups := ["NATO", "G7", "OECD", "G20"]
  currency := some "GBP"
  currencySymbol := some "£"
  phoneCountryCode := some "+44"
  phoneRegexp := pattern ["^\\d", times "4", "\\s?\\d", times "6", "$"]
  phoneFormat := some "#### ######"
  postalCodeRegexp := pattern ["^[A-Za-z]", times "1,2", "\\d[A-Za-z\\d]? ?\\d[A-Za-z]", times "2",
    "$"]
  postalCodeFormat := some "AA## #AA"
  tld := some ".uk"
  flag := some "🇬🇧"
  addressFormat := template [
    [.field .recipient],
    [.field .house],
    [.field .houseNumber, .plain " ", .field .road],
    [.field .suburb],
    [.firstField [.postalTown, .city]],
    [.field .postcode],
    [.field .country]]

/-- India. -/
def india : Country where
  alpha2 := "IN"
  alpha3 := "IND"
  name := "India"
  officialName := some "Republic of India"
  nativeNames := ["भारत", "भारत गणराज्य"]
  languages := ["hi", "en"]
  groups := ["G20"]
  currency := some "INR"
  currencySymbol := some "₹"
  phoneCountryCode := some "+91"
  phoneRegexp := pattern ["^\\d", times "5", "\\s?\\d", times "5", "$"]
  phoneFormat := some "##### #####"
  postalCodeRegexp := pattern ["^\\d", times "6", "$"]
  postalCodeFormat := some "######"
  tld := some ".in"
  flag := some "🇮🇳"
  addressFormat := template [
    [.field .recipient],
    [.field .house],
    [.field .houseNumber, .plain ", ", .field .road],
    [.field .neighbourhood],
    [.field .city, .plain " - ", .field .postcode],
    [.field .state],
    [.field .country]]

/-- Japan. -/
def japan : Country where
  alpha2 := "JP"
  alpha3 := "JPN"
  name := "Japan"
  officialName := some "Japan"
  nativeNames := ["日本", "日本国"]
  languages := ["ja"]
  groups := ["G7", "OECD", "G20"]
  currency := some "JPY"
  currencySymbol := some "¥"
  phoneCountryCode := some "+81"
  phoneRegexp := pattern ["^\\d", times "2", "-?\\d", times "4", "-?\\d", times "4", "$"]
  phoneFormat := some "##-####-####"
  postalCodeRegexp := pattern ["^\\d", times "3", "-?\\d", times "4", "$"]
  postalCodeFormat := some "###-####"
  tld := some ".jp"
  flag := some "🇯🇵"
  addressFormat := template [
    [.plain "〒", .field .postcode],
    [.field .state, .field .city, .field .road, .field .houseNumber],
    [.field .recipient],
    [.field .country]]

/-- United States. -/
def unitedStates : Country where
  alpha2 := "US"
  alpha3 := "USA"
  name := "United States"
  officialName := some "United States of America"
  languages := ["en"]
  groups := ["NATO", "G7", "OECD", "G20"]
  currency := some "USD"
  currencySymbol := some "$"
  phoneCountryCode := some "+1"
  phoneRegexp := pattern ["^\\(?\\d", times "3", "\\)?[-.\\s]?\\d", times "3", "[-.\\s]?\\d",
    times "4", "$"]
  phoneFormat := some "(###) ###-####"
  postalCodeRegexp := pattern ["^\\d", times "5", "(-\\d", times "4", ")?$"]
  postalCodeFormat := some "#####"
  tld := some ".us"
  flag := some "🇺🇸"
  addressFormat := template [
    [.field .recipient],
    [.field .house],
    [.field .houseNumber, .plain " ", .field .road],
    [.firstField [.city, .suburb, .county], .plain ", ", .firstField [.stateCode, .state],
      .plain " ", .field .postcode],
    [.field .country]]

/-! ## Languages -/

/-- The languages. -/
def languages : List LanguageEntry :=
  [⟨"de", "German", "Deutsch", none, some "Latin"⟩,
    ⟨"en", "English", "English", none, some "Latin"⟩,
    ⟨"fr", "French", "Français", none, some "Latin"⟩,
    ⟨"hi", "Hindi", "हिन्दी", none, some "Devanagari"⟩,
    ⟨"it", "Italian", "Italiano", none, some "Latin"⟩,
    ⟨"ja", "Japanese", "日本語", none, some "Japanese"⟩,
    ⟨"rm", "Romansh", "Rumantsch", none, some "Latin"⟩,
    ⟨"ar", "Arabic", "العربية", some true, some "Arabic"⟩]

/-! ## Groups -/

/-- European Union. -/
def europeanUnion : GroupEntry where
  id := "EU"
  name := "European Union"
  kind := "POLITICAL_UNION"
  description := some "Political and economic union of European countries"
  members := codes [
    "AT BE BG HR CY CZ DK EE FI FR DE GR HU IE IT LV LT LU MT NL PL PT RO SK SI ES SE"]

/-- North Atlantic Treaty Organization. -/
def atlanticTreaty : GroupEntry where
  id := "NATO"
  name := "North Atlantic Treaty Organization"
  kind := "MILITARY_ALLIANCE"
  description := some "Military alliance of North American and European countries"
  members := codes [
    "US CA GB FR DE IT ES NL BE DK NO IS LU PT GR TR CZ HU PL BG EE LV LT RO SK SI AL HR ME MK",
    "FI SE"]

/-- Organisation for Economic Co-operation and Development. -/
def economicCooperation : GroupEntry where
  id := "OECD"
  name := "Organisation for Economic Co-operation and Development"
  kind := "ECONOMIC_UNION"
  description := some "International organisation working to build better policies for better lives"
  members := codes [
    "AU AT BE CA CL CZ DK EE FI FR DE GR HU IS IE IL IT JP KR LV LT LU MX NL NZ NO PL PT SK SI",
    "ES SE CH TR GB US CO CR"]

/-- Group of Seven. -/
def groupOfSeven : GroupEntry where
  id := "G7"
  name := "Group of Seven"
  kind := "ECONOMIC_UNION"
  description := some "Forum of advanced economies"
  members := codes ["CA FR DE IT JP GB US"]

/-- Group of Twenty. -/
def groupOfTwenty : GroupEntry where
  id := "G20"
  name := "Group of Twenty"
  kind := "ECONOMIC_UNION"
  description := some "International forum for governments and central bank governors"
  members := codes ["AR AU BR CA CN FR DE IN ID IT JP MX RU SA ZA KR TR GB US EU"]

/-! ## The document -/

/-- The embedded document. -/
def document : Document where
  countries := [antarctica, australia, canada, switzerland, germany, france, unitedKingdom, india,
    japan, unitedStates]
  languages := languages
  groups := [europeanUnion, atlanticTreaty, economicCooperation, groupOfSeven, groupOfTwenty]

end Gazetteer.Embedded
