import Phrasebook.Text.Case
import Phrasebook.Text.Trim

/-!
# Phrasebook.Locale.Tag

Locale tags such as `fr_FR.UTF-8` or `pt-BR`. `normalize` reduces a tag to its language code.
-/

namespace Phrasebook
namespace Locale

/-- The characters that end the language part of a tag. -/
def isTagSeparator (c : Char) : Bool :=
  c = '-' || c = '_' || c = '.' || c = '@'

/-- The language code of a tag, in lower case. -/
def normalize (tag : Text) : Text :=
  Text.lower ((Text.trim tag).takeWhile (!isTagSeparator ·))

/-- Whether two tags are equal, case ignored. -/
def sameTag (requested available : Text) : Bool :=
  Text.equalIgnoringCase requested available

/-- Whether two tags are equal, case ignored, or have the same language. -/
def sameLanguage (requested available : Text) : Bool :=
  sameTag requested available || normalize requested == normalize available

/-- Whether an available tag matches a requested one, in strictness or by language. -/
def matchesTag (requested available : Text) (strict : Bool) : Bool :=
  if strict then sameTag requested available else sameLanguage requested available

theorem sameLanguage_of_sameTag {requested available : Text}
    (h : sameTag requested available = true) : sameLanguage requested available = true := by
  simp [sameLanguage, h]

end Locale
end Phrasebook
