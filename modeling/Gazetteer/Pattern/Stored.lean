/-
# Gazetteer.Pattern.Stored -- patterns as records store them

Records store a pattern with its backslashes doubled. Before it is read, doubled backslashes are
made single again, and the escapes for digits and word characters are written out as ASCII classes:
a digit that formatting would not take can then satisfy no pattern. Inputs are trimmed before they
are tested, and a blank input, a blank pattern or a text that is no pattern accepts nothing.

Two limits are set to patterns: how deep one is nested, which `Node.ofText?` checks, and how large
it gets when it is compiled. The latter depends on how the engine lays out its states, which is not
described here; the functions below are told which texts are within the limit (`SizeLimit`).
-/
import Gazetteer.Pattern.Grammar
import Gazetteer.Pattern.Regex

namespace Gazetteer.Pattern

/-- A pattern with its backslashes doubled. -/
def escape (t : Text) : Text := t.flatMap (fun c => if c = '\\' then ['\\', '\\'] else [c])

/-- Makes doubled backslashes single, from left to right. -/
def unescape : Text → Text
  | '\\' :: '\\' :: rest => '\\' :: unescape rest
  | c :: rest => c :: unescape rest
  | [] => []

/-- What a backslash and the character behind it are written out as. -/
def classText (c : Char) : Text :=
  match c with
  | 'd' => "[0-9]"
  | 'D' => "[^0-9]"
  | 'w' => "[0-9A-Za-z_]"
  | 'W' => "[^0-9A-Za-z_]"
  | c => ['\\', c]

/-- Writes out the escapes for digits and word characters as ASCII classes. -/
def expandClasses : Text → Text
  | '\\' :: c :: rest => classText c ++ expandClasses rest
  | c :: rest => c :: expandClasses rest
  | [] => []

/-- The text of a stored pattern as it is read. -/
def source (stored : Text) : Text := expandClasses (unescape stored)

/-! ## The size of a pattern -/

/-- A limit on the size of what is compiled of a pattern, as the texts of the patterns within it. -/
class SizeLimit where
  /-- Whether what is compiled of the text stays within the limit. -/
  fits : Text → Bool

/-- The greatest number of states that could be within 10 MiB: a state takes 24 bytes or more. -/
def stateLimit : Nat := 10 * 1024 * 1024 / 24

/-- The limit that programs run with. It refuses what is too large for certain, since every
character and every set takes a state at least; a pattern that it lets pass may still be too large,
by the states of its sets, repetitions and groups. -/
instance leastSizeLimit : SizeLimit where
  fits t := (Node.ofText? t).all (·.size ≤ stateLimit)

/-! ## Matching -/

/-- The meaning of a stored pattern, if it is a pattern within the limit on the size. -/
def compile? [SizeLimit] (stored : Text) : Option Regex :=
  if SizeLimit.fits (source stored) then
    (Node.ofText? (source stored)).map (fun node => (node.meaning {}).1)
  else none

/-- Whether a trimmed input holds a match of a stored pattern. -/
def accepts [SizeLimit] (stored : Option Text) (input : Text) : Bool :=
  match Text.nonBlank? stored with
  | none => false
  | some stored =>
    let input := Text.trim input
    !input.isEmpty && (compile? stored).any (·.search input)

end Gazetteer.Pattern
