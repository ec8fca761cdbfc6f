/-
# Gazetteer.Text.Spelling -- spelling characters in ASCII

Each character has at most one spelling by ASCII characters: the printable ASCII characters spell
themselves, the controls are spelled by nothing, Latin letters lose their accents, and letters of
other scripts are spelled by their sound.

The tables are not complete. They cover everything below U+0180, and behind it only the characters
listed in `otherSpellings`. All others have no spelling here, although most characters of Unicode do
have one, among them the rest of Greek, Cyrillic, Hebrew, Arabic, Chinese, Japanese and Korean. So
the key of a text with such a character is not the full one. Nothing is proved from the tables:
searching is shown to narrow however texts are spelled, with the spelling as a parameter.
-/
import Gazetteer.Text.Basic

namespace Gazetteer.Text

/-! ## The tables -/

/-- The spellings of the characters from U+00A0 to U+017F, in order. -/
private def latinSpellings : List String :=
  [" ", "!", "C/", "PS", "$?", "Y=", "|", "SS", "\"", "(c)", "a", "<<", "!", "", "(r)", "-",
    "deg", "+-", "2", "3", "'", "u", "P", "*", ",", "1", "o", ">>", "1/4", "1/2", "3/4", "?",
    "A", "A", "A", "A", "A", "A", "AE", "C", "E", "E", "E", "E", "I", "I", "I", "I", "D", "N",
    "O", "O", "O", "O", "O", "x", "O", "U", "U", "U", "U", "Y", "Th", "ss", "a", "a", "a", "a",
    "a", "a", "ae", "c", "e", "e", "e", "e", "i", "i", "i", "i", "d", "n", "o", "o", "o", "o",
    "o", "/", "o", "u", "u", "u", "u", "y", "th", "y", "A", "a", "A", "a", "A", "a", "C", "c",
    "C", "c", "C", "c", "C", "c", "D", "d", "D", "d", "E", "e", "E", "e", "E", "e", "E", "e",
    "E", "e", "G", "g", "G", "g", "G", "g", "G", "g", "H", "h", "H", "h", "I", "i", "I", "i",
    "I", "i", "I", "i", "I", "i", "IJ", "ij", "J", "j", "K", "k", "k", "L", "l", "L", "l", "L",
    "l", "L", "l", "L", "l", "N", "n", "N", "n", "N", "n", "'n", "ng", "NG", "O", "o", "O", "o",
    "O", "o", "OE", "oe", "R", "r", "R", "r", "R", "r", "S", "s", "S", "s", "S", "s", "S", "s",
    "T", "t", "T", "t", "T", "t", "U", "u", "U", "u", "U", "u", "U", "u", "U", "u", "U", "u",
    "W", "w", "Y", "y", "Y", "Z", "z", "Z", "z", "Z", "z", "s"]

/-- The spellings of single characters from U+0180 on, in order. -/
private def otherSpellings : List (Nat × String) :=
  [(0x192, "f"), (0x1C4, "DZ"), (0x1C5, "Dz"), (0x301, ""), (0x395, "E"), (0x3AC, "a"),
    (0x3B1, "a"), (0x3B4, "d"), (0x3BB, "l"), (0x420, "R"), (0x423, "U"), (0x430, "a"),
    (0x438, "i"), (0x43A, "k"), (0x43D, "n"), (0x43E, "o"), (0x440, "r"), (0x441, "s"),
    (0x44F, "ia"), (0x457, "yi"), (0x540, "H"), (0x561, "a"), (0x575, "y"), (0x576, "n"),
    (0x57D, "s"), (0x57F, "t"), (0x5D0, "'"), (0x5D9, "y"), (0x5DC, "l"), (0x5E8, "r"),
    (0x5E9, "sh"), (0x627, ""), (0x628, "b"), (0x629, "@"), (0x631, "r"), (0x635, "S"),
    (0x639, "`"), (0x644, "l"), (0x645, "m"), (0x64A, "y"), (0x661, "1"), (0x908, "ii"),
    (0x917, "g"), (0x91C, "j"), (0x923, "nn"), (0x924, "t"), (0x926, "d"), (0x928, "n"),
    (0x92D, "bh"), (0x92F, "y"), (0x930, "r"), (0x932, "l"), (0x939, "h"), (0x93E, "aa"),
    (0x93F, "i"), (0x940, "ii"), (0x94D, ""), (0xE17, "th"), (0xE22, "y"), (0xE44, "ai"),
    (0x1000, "k"), (0x1018, "bh"), (0x1019, "m"), (0x102C, "aa"), (0x1039, ""), (0x10D0, "a"),
    (0x10D4, "e"), (0x10D5, "v"), (0x10D7, "t`"), (0x10DA, "l"), (0x10DD, "o"), (0x10E0, "r"),
    (0x10E1, "s"), (0x10E5, "k`"), (0x1E9E, "Ss"), (0x200B, " "), (0x2010, "-"), (0x2014, "--"),
    (0x2018, "'"), (0x2019, "'"), (0x201C, "\""), (0x201D, "\""), (0x2026, "..."),
    (0x20AC, "EUR"), (0x20B9, "Rs"), (0x2122, "tm"), (0x2167, "VIII"), (0x2460, "1"),
    (0x2461, "2"), (0x2603, "snowman "), (0x2623, "biohazard "), (0x3000, " "), (0x3012, "@"),
    (0x30B8, "zi"), (0x30D1, "pa"), (0x30E3, "ya"), (0x30F3, "n"), (0x4E2D, "Zhong "),
    (0x4EAC, "Jing "), (0x56FD, "Guo "), (0x65E5, "Ri "), (0x672C, "Ben "), (0x6771, "Dong "),
    (0x8A9E, "Yu "), (0xAD6D, "gug"), (0xB300, "dae"), (0xBBFC, "min"), (0xD55C, "han"),
    (0xFB01, "fi"), (0xFEFF, ""), (0xFF10, "0"), (0xFF11, "1"), (0xFF14, "4"), (0xFF18, "8"),
    (0xFF33, "S"), (0xFF35, "U"), (0x1F1E6, "A"), (0x1F1E7, "B"), (0x1F1E8, "C"), (0x1F1E9, "D"),
    (0x1F1EA, "E"), (0x1F1EB, "F"), (0x1F1EC, "G"), (0x1F1ED, "H"), (0x1F1EE, "I"),
    (0x1F1EF, "J"), (0x1F1F3, "N"), (0x1F1F5, "P"), (0x1F1F6, "Q"), (0x1F1F7, "R"),
    (0x1F1F8, "S"), (0x1F1FA, "U"), (0x1F3FD, ""), (0x1F44D, "+1 "), (0x1F984, "unicorn "),
    (0x20000, "He")]

/-! ## The spelling of a character -/

/-- How a character is spelled in ASCII, if it is. -/
def spelling? (c : Char) : Option Text :=
  let n := c.toNat
  if n < 0x20 then some []
  else if n < 0x7F then some [c]
  else if n < 0xA0 then some []
  else if n < 0x180 then latinSpellings[n - 0xA0]?.map String.toList
  else (otherSpellings.find? (fun (m, _) => m == n)).map (fun (_, s) => s.toList)

end Gazetteer.Text
