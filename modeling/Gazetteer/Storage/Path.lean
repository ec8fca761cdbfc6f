/-
# Gazetteer.Storage.Path -- paths of files

A path is a row of components with slashes between. Empty components and single dots name nothing of
their own. Whether a file is compressed is told by the extension of its name: what stands behind the
last dot, unless that dot is the first character.
-/
import Gazetteer.Text.Scan

namespace Gazetteer.Storage

/-- The texts between the slashes of a path. -/
def components (path : Text) : List Text := Text.splitOn "/" path

/-- Whether a component names nothing: it is empty or a single dot. -/
def isIdle (component : Text) : Bool := component == [] || component == ['.']

/-- The last component of a path that names something; two dots are no name. -/
def fileName? (path : Text) : Option Text :=
  ((components path).filter (fun c => !isIdle c)).getLast?.filter (· != ['.', '.'])

/-- The part of a name behind its last dot, which must not be the first character. -/
def extension? (name : Text) : Option Text :=
  let back := name.reverse
  match back.dropWhile (· != '.') with
  | _ :: _ :: _ => some (back.takeWhile (· != '.')).reverse
  | _ => none

/-- Whether a path names a compressed file. -/
def isCompressed (path : Text) : Bool :=
  ((fileName? path).bind extension?).any (Text.sameLetters "gz")

end Gazetteer.Storage
