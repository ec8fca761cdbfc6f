/-
# Gazetteer.Storage.Directory -- a working directory

A working directory is a list of files and directories under it, each with the components of its
path. Every directory of the list is one that was made before what lies in it. What lies outside is
unknown but for the directories on the way up.
-/
import Gazetteer.Storage.Opening
import Gazetteer.Text.Utf8

namespace Gazetteer.Storage

/-- The files and directories under a working directory. -/
abbrev Directory := List (List Text × Opened)

namespace Directory

/-- The components of a path that name something. -/
def address (path : Text) : List Text := (components path).filter (fun c => !isIdle c)

/-- Adds a file or directory, which hides an older one of the same path. -/
def add (d : Directory) (path : Text) (what : Opened) : Directory := (address path, what) :: d

/-- What stands at an address; the working directory itself stands at the empty one. -/
def at? (d : Directory) (address : List Text) : Option Opened :=
  if address.isEmpty then some .directory else (d.find? (fun e => e.1 == address)).map (·.2)

/-- A place that a path leads to: an address under the working directory, or somewhere outside. -/
abbrev Place := Option (List Text)

/-- What stands at a place. -/
def what (d : Directory) : Place → Except OpenFailure Opened
  | none => .ok .directory
  | some address =>
    match d.at? address with
    | some o => .ok o
    | none => .error .missing

/-- The place one level up. -/
def parent : Place → Place
  | none => none
  | some address => if address.isEmpty then none else some address.dropLast

/-- The most bytes that the name of a file may have. -/
def maxNameSize : Nat := 255

/-- The most bytes that a path may have. -/
def maxPathSize : Nat := 4095

/-- Follows components from a place. -/
def follow (d : Directory) : Place → List Text → Except OpenFailure Opened
  | place, [] => d.what place
  | place, component :: rest =>
    match d.what place with
    | .error e => .error e
    | .ok (.file _) => .error .notDirectory
    | .ok .directory =>
      if isIdle component then d.follow place rest
      else if component = ['.', '.'] then d.follow (parent place) rest
      else if maxNameSize < (Text.utf8 component).length then .error .nameTooLong
      else
        match place with
        | none => .error .missing
        | some address => d.follow (some (address ++ [component])) rest

/-- Opens what a path leads to. -/
def openPath (d : Directory) (path : Text) : Except OpenFailure Opened :=
  if path.contains '\x00' then .error .zeroCharacter
  else if path.isEmpty then .error .missing
  else if maxPathSize < (Text.utf8 path).length then .error .nameTooLong
  else d.follow (if path.head? = some '/' then none else some []) (components path)

end Directory

end Gazetteer.Storage
