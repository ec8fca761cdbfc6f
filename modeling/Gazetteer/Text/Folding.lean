/-
# Gazetteer.Text.Folding -- keys for loose comparison

The folded key of a text is what accents and letter case leave of it: the text spelled in ASCII and
lowered. "Zürich", "ZURICH" and "zurich" have one key. The longest front part of characters below
U+007F stands as it is, controls included; from the first other character on, every character is
spelled by table.
-/
import Gazetteer.Text.Spelling
import Gazetteer.Text.Scan

namespace Gazetteer.Text

/-! ## Spelling a text -/

/-- Whether a character has a spelling that starts with a space. -/
def spelledFromSpace (c : Char) : Bool := (spelling? c).bind List.head? == some ' '

/-- The spelling of a character before the rest of its text. A spelling of several characters that
ends in a space gives up that space at the end of the text and before another space; a character
without a spelling shows as `[?]`. -/
def spellingBefore (c : Char) (rest : Text) : Text :=
  match spelling? c with
  | none => "[?]"
  | some s =>
    if 1 < s.length && s.getLast? == some ' '
        && (match rest with | [] => true | d :: _ => spelledFromSpace d) then
      s.dropLast
    else s

/-- Spells every character. -/
def spell : Text → Text
  | [] => []
  | c :: rest => spellingBefore c rest ++ spell rest

/-- The characters that need no spelling at the front of a text. -/
def isPlain (c : Char) : Bool := c.toNat < 0x7F

/-- The text in ASCII: the plain front part as it is, and the rest spelled. -/
def inAscii (t : Text) : Text := t.takeWhile isPlain ++ spell (t.dropWhile isPlain)

/-! ## Keys -/

/-- The key of a text under some way of spelling texts in ASCII: the spelled text, lowered. -/
def keyUnder (spelling : Text → Text) (t : Text) : Text := lower (spelling t)

/-- The key under which a text is compared loosely. -/
def foldedKey (t : Text) : Text := keyUnder inAscii t

/-- Two texts with one key. -/
def sameFolded (a b : Text) : Bool := foldedKey a == foldedKey b

/-- Whether the key of a text holds the key of another. -/
def foldedContains (t part : Text) : Bool := occursIn (foldedKey part) (foldedKey t)

end Gazetteer.Text
