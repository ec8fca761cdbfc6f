/-
# Gazetteer.Address.Template -- rendering one line of an address template

A template line is text with four kinds of tag, where a word is a non-empty run of ASCII letters,
digits and underscores:

* `{{{key}}}` or `{{key}}`: a substitution, the trimmed value of the key;
* a first-block, between the tags `#first` and `/first`: alternatives parted by two bars, of which
  the first one that renders to something is taken;
* a section, between the tags `#key` and `/key`: its body stands if the key has a value;
* an inverted section, between the tags `^key` and `/key`: its body stands if the key has none.

A line is rendered in three stages, each of which scans the whole text that the one before left:
first-blocks, then sections, then substitutions. A tag that is not complete is plain text. At last
white space is tidied, and a line that holds no letter or digit is dropped.

Each stage is a leftmost scan (`Text.pieces`) for its own form, so for each there are two readings
of the same pieces: the text it leaves, and the keys it asks for, in order.
-/
import Gazetteer.Text.Blank
import Gazetteer.Text.Scan

namespace Gazetteer.Address.Template

/-- Gives each key its value, empty for a key it does not know. -/
abbrev Resolver := Text → Text

/-- The value of a key as a line shows it. -/
def shown (resolve : Resolver) (key : Text) : Text := Text.trim (resolve key)

/-! ## Keys and braces -/

/-- The characters of a key. -/
def isWordChar (c : Char) : Bool := c.isAlphanum || c == '_'

/-- The word at the front of a text. -/
def leadingWord (t : Text) : Text := t.takeWhile isWordChar

/-- Two opening braces. -/
def opening : Text := ['{', '{']

/-- Two closing braces. -/
def closing : Text := ['}', '}']

/-- A tag: its content between two braces on each side. -/
def tag (content : Text) : Text := opening ++ content ++ closing

/-! ## Substitutions -/

/-- A word between `n` opening and `n` closing braces at the front of a text. -/
def braced (n : Nat) : Text.Form Text := fun t =>
  (List.replicate n '{').isPrefixOf? t >>= fun inner =>
    let key := leadingWord inner
    if key.isEmpty then none
    else if (List.replicate n '}').isPrefixOf (inner.drop key.length) then
      some (key, key.length + 2 * n)
    else none

/-- A substitution; three braces win over two. -/
def substitution? : Text.Form Text := fun t => braced 3 t <|> braced 2 t

/-- The keys that a text substitutes, from left to right. -/
def substitutionKeys (t : Text) : List Text := Text.occurrences substitution? t

/-- The text with every substitution made. -/
def substitute (resolve : Resolver) (t : Text) : Text :=
  Text.replaceWith substitution? (shown resolve) t

/-! ## Sections -/

/-- A section: the body stands when the key has a value, or, if inverted, when it has none. -/
structure Section where
  key : Text
  inverted : Bool
  body : Text
  deriving DecidableEq, Repr

/-- The sign that opens a section, and whether it inverts. -/
def sectionSign? : Char → Option Bool
  | '#' => some false
  | '^' => some true
  | _ => none

/-- A section at the front of a text: an opening tag, and the nearest closing tag of its key. -/
def section? : Text.Form Section := fun t =>
  match opening.isPrefixOf? t with
  | some (sign :: inner) =>
    sectionSign? sign >>= fun inverted =>
      let key := leadingWord inner
      if key.isEmpty then none
      else
        closing.isPrefixOf? (inner.drop key.length) >>= fun content =>
          let close := tag ('/' :: key)
          (Text.cut? close content).map fun (body, _) =>
            (⟨key, inverted, body⟩, key.length + 5 + body.length + close.length)
  | _ => none

/-- What a section leaves: its body or nothing. -/
def Section.expand (resolve : Resolver) (s : Section) : Text :=
  if (shown resolve s.key).isEmpty = s.inverted then s.body else []

/-- The text with every section replaced by what it leaves; bodies are not scanned again. -/
def resolveSections (resolve : Resolver) (t : Text) : Text :=
  Text.replaceWith section? (Section.expand resolve) t

/-- The keys that the section stage asks for. -/
def sectionKeys (t : Text) : List Text := (Text.occurrences section? t).map Section.key

/-! ## First-blocks -/

/-- The tag that opens a first-block. -/
def firstOpen : Text := tag "#first"

/-- The tag that closes a first-block. -/
def firstClose : Text := tag "/first"

/-- The alternatives in the body of a first-block. -/
def alternatives (body : Text) : List Text := (Text.splitOn "||" body).map Text.trim

/-- A first-block at the front of a text, as its alternatives; it ends at the nearest closing
tag. -/
def firstBlock? : Text.Form (List Text) := fun t =>
  firstOpen.isPrefixOf? t >>= fun content =>
    (Text.cut? firstClose content).map fun (body, _) =>
      (alternatives body, firstOpen.length + body.length + firstClose.length)

/-- How an alternative renders. -/
def renderAlternative (resolve : Resolver) (alternative : Text) : Text :=
  Text.trim (substitute resolve alternative)

/-- The first alternative that renders to something, or nothing. -/
def chooseFirst (resolve : Resolver) : List Text → Text
  | [] => []
  | alternative :: rest =>
    let rendered := renderAlternative resolve alternative
    if rendered.isEmpty then chooseFirst resolve rest else rendered

/-- The keys asked for up to the alternative that is taken; later ones are never looked at. -/
def chosenKeys (resolve : Resolver) : List Text → List Text
  | [] => []
  | alternative :: rest =>
    substitutionKeys alternative ++
      (if (renderAlternative resolve alternative).isEmpty then chosenKeys resolve rest else [])

/-- The text with every first-block replaced by the alternative taken. -/
def resolveFirstBlocks (resolve : Resolver) (t : Text) : Text :=
  Text.replaceWith firstBlock? (chooseFirst resolve) t

/-- The keys that the first-block stage asks for. -/
def firstBlockKeys (resolve : Resolver) (t : Text) : List Text :=
  (Text.occurrences firstBlock? t).flatMap (chosenKeys resolve)

/-! ## The line -/

/-- The line after the first two stages. -/
def resolveBlocks (resolve : Resolver) (line : Text) : Text :=
  resolveSections resolve (resolveFirstBlocks resolve line)

/-- Whether a line shows anything but ASCII punctuation, white space and controls: an ASCII letter
or digit, or any character outside ASCII. -/
def hasContent (t : Text) : Bool := t.any (fun c => c.isAlphanum || 128 ≤ c.toNat)

/-- Tidies the white space of a line, and empties a line without content. -/
def cleanUp (t : Text) : Text :=
  let line := Text.tidy t
  if hasContent line then line else []

/-- The rendered line, empty if nothing but separators is left of it. -/
def renderLine (resolve : Resolver) (line : Text) : Text :=
  cleanUp (substitute resolve (resolveBlocks resolve line))

/-- Every key that rendering a line asks for, in order. -/
def askedKeys (resolve : Resolver) (line : Text) : List Text :=
  firstBlockKeys resolve line
    ++ sectionKeys (resolveFirstBlocks resolve line)
    ++ substitutionKeys (resolveBlocks resolve line)

end Gazetteer.Address.Template
