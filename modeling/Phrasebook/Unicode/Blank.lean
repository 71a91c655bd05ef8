import Phrasebook.Unicode.Ranges

/-!
# Phrasebook.Unicode.Blank

White space: the characters that separate tokens and that are trimmed from the ends of a text.
-/

namespace Phrasebook
namespace Unicode

/-- White space and the four information separators. The zero width space and the byte order mark
are no white space. -/
def blankRanges : List (Nat × Nat) :=
  [(0x9, 0xD), (0x1C, 0x20), (0x85, 0x85), (0xA0, 0xA0), (0x1680, 0x1680), (0x2000, 0x200A),
   (0x2028, 0x2029), (0x202F, 0x202F), (0x205F, 0x205F), (0x3000, 0x3000)]

/-- White space. -/
def isBlank (c : Char) : Bool :=
  inRanges blankRanges c

end Unicode
end Phrasebook
