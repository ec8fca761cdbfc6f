/-
# Gazetteer.Dataset.Lookup -- finding countries, languages and groups

Country codes are compared without regard to the case of ASCII letters; codes of languages and ids
of groups are compared as they stand. Where several records fit, a look-up for one takes the first,
and a look-up for many gives them in the order of the dataset.
-/
import Gazetteer.Dataset.Basic

namespace Gazetteer.Dataset

/-! ## One record -/

/-- The first country with an alpha-2 code. -/
def alpha2? (d : Dataset) (code : Text) : Option Country :=
  d.countries.find? (fun c => Text.sameLetters c.alpha2 code)

/-- The first country with an alpha-3 code. -/
def alpha3? (d : Dataset) (code : Text) : Option Country :=
  d.countries.find? (fun c => Text.sameLetters c.alpha3 code)

/-- The country with a code, whose surrounding white space does not matter. A country with this
alpha-2 code comes before all with this alpha-3 code. -/
def country? (d : Dataset) (code : Text) : Option Country :=
  let code := Text.trim code
  d.alpha2? code <|> d.alpha3? code

/-- The first group with an id. -/
def group? (d : Dataset) (id : Text) : Option Group := d.groups.find? (fun g => g.id == id)

/-- The first language with a code. -/
def language? (d : Dataset) (code : Text) : Option Language :=
  d.languages.find? (fun l => l.code == code)

/-! ## Many countries -/

/-- The countries that list a group among their own. -/
def inGroup (d : Dataset) (groupId : Text) : List Country :=
  d.countries.filter (fun c => c.isMemberOf groupId)

/-- The countries whose calling code has the same digits; none if there are no digits. -/
def withCallingCode (d : Dataset) (code : Text) : List Country :=
  let wanted := Text.digits code
  if wanted.isEmpty then []
  else d.countries.filter (fun c => Text.digits c.callingCode == wanted)

/-- All names of a country. -/
def namesOf (c : Country) : List Text := c.name :: c.officialName.toList ++ c.nativeNames

/-- The countries with a name whose key holds the key of the trimmed query, under some way of
spelling texts; none if that key is empty. -/
def namedUnder (spelling : Text → Text) (d : Dataset) (query : Text) : List Country :=
  let key := Text.keyUnder spelling (Text.trim query)
  if key.isEmpty then []
  else d.countries.filter fun c =>
    (namesOf c).any (fun name => Text.occursIn key (Text.keyUnder spelling name))

/-- The countries with a name that contains the trimmed query, but for accents and letter case;
none if nothing is left of the query. -/
def named (d : Dataset) (query : Text) : List Country := d.namedUnder Text.inAscii query

/-! ## Languages -/

/-- The languages of a country that the dataset knows, in the order of the country. -/
def languagesOf (d : Dataset) (c : Country) : List Language := c.languages.filterMap d.language?

end Gazetteer.Dataset
