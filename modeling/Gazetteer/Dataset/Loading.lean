/-
# Gazetteer.Dataset.Loading -- loading a dataset

A dataset is loaded from the text of a document, from a stream, from a file, or from the document
that comes with the library. Loading fails when the file cannot be opened, when the document cannot
be read, or when no country is left.
-/
import Gazetteer.Dataset.Embedded
import Gazetteer.Dataset.Form
import Gazetteer.Json.Message
import Gazetteer.Storage.Opening
import Gazetteer.Text.Utf8

namespace Gazetteer

/-! ## Failures -/

/-- Why a dataset cannot be loaded. -/
inductive LoadError where
  | notFound (path : Text) (reason : Storage.OpenFailure)
  | unreadable (fault : Json.Fault)
  | noCountries
  deriving DecidableEq, Repr

/-- What is told about a fault of a document; nothing is laid down for malformed text. -/
def Json.Fault.message : Json.Fault → Text
  | .malformed => "malformed JSON"
  | .truncated => "EOF while parsing"
  | .unreadable failure => failure.message
  | .mismatch m => m.message

/-- What is told about a dataset that cannot be loaded. -/
def LoadError.message : LoadError → Text
  | .notFound path reason =>
    "Not found: Dataset not found at " ++ path ++ ": " ++ reason.message
  | .unreadable fault => "JSON error: " ++ fault.message
  | .noCountries => "Invalid data: dataset contains no countries"

/-! ## Loading -/

namespace Dataset

/-- Loads a document. -/
def ofDocument (d : Document) (filter : Document.Filter) : Except LoadError Dataset :=
  match d.toDataset? filter with
  | some dataset => .ok dataset
  | none => .error .noCountries

/-- Loads what a stream holds. -/
def ofStream (s : Storage.Stream) (filter : Document.Filter) : Except LoadError Dataset :=
  match Document.form.decode s with
  | .ok d => ofDocument d filter
  | .error fault => .error (.unreadable fault)

/-- Loads the text of a document. -/
def ofText (t : Text) : Except LoadError Dataset := ofStream (.ofBytes (Text.utf8 t)) none

/-- Loads what was opened under a path. -/
def ofOpened (path : Text) (opened : Except Storage.OpenFailure Storage.Opened)
    (filter : Document.Filter) : Except LoadError Dataset :=
  match opened with
  | .ok o => ofStream (o.stream path) filter
  | .error reason => .error (.notFound path reason)

/-- The embedded dataset. -/
def embedded : Dataset := Embedded.document.normal

/-- The countries of the embedded dataset that a filter keeps. -/
def ofEmbedded (filter : Document.Filter) : Except LoadError Dataset :=
  ofDocument Embedded.document filter

end Dataset

end Gazetteer
