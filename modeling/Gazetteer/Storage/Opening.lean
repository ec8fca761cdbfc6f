/-
# Gazetteer.Storage.Opening -- what opening a file comes to

A file is opened, or there is a reason why not. Directories can be opened too, but reading them
fails at once. A file whose name says so is decompressed while it is read.
-/
import Gazetteer.Gzip.Member
import Gazetteer.Storage.Path

namespace Gazetteer.Storage

/-- Why a file cannot be opened. -/
inductive OpenFailure where
  | missing
  | denied
  /-- A file stands where the path needs a directory. -/
  | notDirectory
  | nameTooLong
  /-- The path holds a zero character. -/
  | zeroCharacter
  deriving DecidableEq, Repr

/-- What is told about a file that cannot be opened. -/
def OpenFailure.message : OpenFailure → Text
  | .missing => "No such file or directory (os error 2)"
  | .denied => "Permission denied (os error 13)"
  | .notDirectory => "Not a directory (os error 20)"
  | .nameTooLong => "File name too long (os error 36)"
  | .zeroCharacter => "file name contained an unexpected NUL byte"

/-- What was opened. -/
inductive Opened where
  | file (bytes : List UInt8)
  | directory
  deriving DecidableEq, Repr

/-- The stream of what was opened under a path. -/
def Opened.stream (path : Text) : Opened → Stream
  | .file bytes => if isCompressed path then Gzip.decompress bytes else .ofBytes bytes
  | .directory => .broken [] .directory

end Gazetteer.Storage
