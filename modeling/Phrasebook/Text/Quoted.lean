import Phrasebook.Unicode.Printable

/-!
# Phrasebook.Text.Quoted

The quoted form of a text, as it is shown inside messages. The text stands between single quotes, or
between double quotes when it holds a single quote and no double one. The mark itself and the
backslash are written after a backslash, the tabulator and the line ends by their letter, and
everything else that is not printable by its code point.
-/

namespace Phrasebook
namespace Text

open Unicode

def singleQuote : Char := Char.ofNat 0x27

def doubleQuote : Char := Char.ofNat 0x22

/-- The mark that a text is quoted with. -/
def quoteMark (t : Text) : Char :=
  if t.contains singleQuote && !t.contains doubleQuote then doubleQuote else singleQuote

/-- A code point as a backslash, a letter for the width, and that many hexadecimal digits. -/
def codeEscape (letter : Char) (width code : Nat) : Text :=
  '\\' :: letter :: List.leftpad width '0' (Nat.toDigits 16 code)

/-- How a character is written between the marks. -/
def escape (mark c : Char) : Text :=
  if c = mark || c = '\\' then ['\\', c]
  else if c = '\t' then ['\\', 't']
  else if c = '\n' then ['\\', 'n']
  else if c = '\r' then ['\\', 'r']
  else if isPrintable c then [c]
  else if c.toNat ≤ 0xFF then codeEscape 'x' 2 c.toNat
  else if c.toNat ≤ 0xFFFF then codeEscape 'u' 4 c.toNat
  else codeEscape 'U' 8 c.toNat

/-- The quoted form of a text. -/
def quoted (t : Text) : Text :=
  quoteMark t :: t.flatMap (escape (quoteMark t)) ++ [quoteMark t]

end Text
end Phrasebook
