/-
# Gazetteer.Text.Blank -- white space

White space is the Unicode property `White_Space`: twenty-five characters. The zero-width space
U+200B, the byte order mark U+FEFF and the separators U+001C to U+001F are not among them. A text
is blank when it holds nothing else, so the empty text is blank.
-/
import Gazetteer.Text.Basic

namespace Gazetteer.Text

/-! ## The property -/

/-- The characters with the Unicode property `White_Space`. -/
def isBlankChar (c : Char) : Bool :=
  let n := c.toNat
  (0x09 ≤ n && n ≤ 0x0D) || n == 0x20 || n == 0x85 || n == 0xA0 || n == 0x1680
    || (0x2000 ≤ n && n ≤ 0x200A) || n == 0x2028 || n == 0x2029 || n == 0x202F || n == 0x205F
    || n == 0x3000

/-- A text of white space only. -/
def isBlank (t : Text) : Bool := t.all isBlankChar

/-- An absent text, or one that is blank, counts as no text. -/
def nonBlank? (t : Option Text) : Option Text := t.filter (fun s => !isBlank s)

/-! ## Trimming -/

/-- Takes the white space off the front. -/
def trimStart (t : Text) : Text := t.dropWhile isBlankChar

/-- Takes the white space off the back. -/
def trimEnd (t : Text) : Text := (t.reverse.dropWhile isBlankChar).reverse

/-- Takes the white space off both ends. -/
def trim (t : Text) : Text := trimEnd (trimStart t)

/-! ## Words and runs -/

/-- The word at the very front, empty where the text starts with white space, and the words
after it. -/
def wordsFrom : Text → Text × List Text
  | [] => ([], [])
  | c :: rest =>
    let (word, others) := wordsFrom rest
    if isBlankChar c then ([], if word.isEmpty then others else word :: others)
    else (c :: word, others)

/-- The maximal runs of characters that are not white space, in order. -/
def words (t : Text) : List Text :=
  let (word, others) := wordsFrom t
  if word.isEmpty then others else word :: others

/-- Whether the first character is white space. -/
def startsBlank : Text → Bool
  | [] => false
  | c :: _ => isBlankChar c

/-- Replaces every maximal run of two or more white-space characters by one space; the flag says
that the character before belongs to the run at hand. A white-space character that stands alone
is kept as it is. -/
def squeezeRuns : Bool → Text → Text
  | _, [] => []
  | inRun, c :: rest =>
    if isBlankChar c then
      if startsBlank rest then squeezeRuns true rest
      else (if inRun then ' ' else c) :: squeezeRuns false rest
    else c :: squeezeRuns false rest

/-- Runs of two or more white-space characters become one space, and the ends are trimmed. -/
def tidy (t : Text) : Text := trim (squeezeRuns false t)

end Gazetteer.Text
