/-
# Gazetteer.Dataset.Basic -- a dataset

A dataset is its countries, languages and groups, each in the order of the document that they came
from. Nothing is said here about codes being unique: look-ups take the first that fits.
-/
import Gazetteer.Country.Basic

namespace Gazetteer

/-- Countries, the languages they speak and the groups they form. -/
structure Dataset where
  countries : List Country
  languages : List Language
  groups : List Group
  deriving DecidableEq, Repr

namespace Dataset

/-- How many countries, languages and groups there are. -/
structure Stats where
  countries : Nat
  languages : Nat
  groups : Nat
  deriving DecidableEq, Repr

/-- Counts a dataset. -/
def stats (d : Dataset) : Stats := ⟨d.countries.length, d.languages.length, d.groups.length⟩

end Dataset

end Gazetteer
