import Phrasebook.Numeral.Scientific
import Phrasebook.Ranking
import Phrasebook.Ranking.Adaptive
import Phrasebook.Text.Trim

/-!
# Phrasebook.Locale.Preference

The languages that a client asks for, read from a header such as `en-US,en;q=0.9,fr-FR;q=0.8`. Each
item names a language range and may give it a quality; a quality that is missing or unreadable is 1.

* `parseHeader`: the preferences in the order of the header.
* `ranked`: the preferences by falling quality, those of one quality in their old order.
* `perm_ranked`: ranking loses no preference.
-/

namespace Phrasebook
namespace Locale

structure Preference where
  range : Text
  quality : Binary64
deriving DecidableEq, Repr

/-- The text of an item's quality, if it has one. -/
def qualityText? (item : Text) : Option Text :=
  if item.contains ';' then
    (Text.afterFirst "q=".toList item).map (Text.beforeFirst "q=".toList)
  else none

/-- The quality of an item. -/
def qualityOf (item : Text) : Binary64 :=
  ((qualityText? item).bind Numeral.readBinary64?).getD .one

/-- The language range of an item. -/
def rangeOf (item : Text) : Text :=
  Text.trim (item.takeWhile (· != ';'))

/-- The preference that an item states; an item without a range states none. -/
def preferenceOf? (item : Text) : Option Preference :=
  if rangeOf item = [] then none else some ⟨rangeOf item, qualityOf item⟩

/-- The preferences that a header states. -/
def parseHeader (header : Text) : List Preference :=
  (Text.fields ',' header).filterMap preferenceOf?

/-! ## Ranking -/

/-- Whether `a` may stand before `b` in a ranking. -/
def ranksBefore (a b : Preference) : Bool :=
  !a.quality.lt b.quality

/-- The preferences by falling quality, those of one quality in their old order. A quality that is NaN
cannot be compared, and is taken as neither greater nor less; then the order follows from the
comparisons that an adaptive ranking makes, from the last preference to the first. -/
def ranked (preferences : List Preference) : List Preference :=
  if preferences.any (·.quality.isNaN) then
    (Ranking.adaptive (fun a b => a.quality.lt b.quality) preferences.reverse).reverse
  else Ranking.ranked ranksBefore preferences

theorem perm_ranked (preferences : List Preference) : (ranked preferences).Perm preferences := by
  simp only [ranked]
  split
  · exact (List.reverse_perm _).trans
      ((Ranking.perm_adaptive _ _).trans (List.reverse_perm _))
  · exact Ranking.perm_ranked _ _

end Locale
end Phrasebook
