import Phrasebook.Text.Trim
import Phrasebook.Unicode.Letter

/-!
# Phrasebook.Variant.Segment

The segments of a message with variants. A pipe that stands alone separates segments; a doubled pipe
is a pipe of the text. A segment may start with a label, such as `one:`, which is dropped.
-/

namespace Phrasebook
namespace Variant

open Unicode

/-- The character between segments. -/
def separator : Char := '|'

/-- A character put in front of the first of some texts. -/
def consFirst (c : Char) : List Text → List Text
  | [] => [[c]]
  | part :: parts => (c :: part) :: parts

/-- The parts of a text between the separators that stand alone; `afterSeparator` tells whether a
separator stands before the text. -/
def cutAtLone (afterSeparator : Bool) : Text → List Text
  | [] => [[]]
  | c :: rest =>
    if c = separator then
      if !afterSeparator && rest.head? != some separator then [] :: cutAtLone true rest
      else consFirst c (cutAtLone true rest)
    else consFirst c (cutAtLone false rest)

/-- The text with every doubled separator replaced by a single one, from left to right. -/
def undouble : Text → Text
  | [] => []
  | [c] => [c]
  | c :: d :: rest =>
    if c = separator ∧ d = separator then separator :: undouble rest
    else c :: undouble (d :: rest)

@[simp]
theorem undouble_separators (rest : Text) :
    undouble (separator :: separator :: rest) = separator :: undouble rest :=
  if_pos ⟨rfl, rfl⟩

/-- The segments of a message; there is always at least one. -/
def segments (message : Text) : List Text :=
  (cutAtLone false message).map undouble

/-- A segment without the blanks around it and without its label. -/
def stripLabel (segment : Text) : Text :=
  let body := Text.trim segment
  match body.takeWhile isWordChar, body.dropWhile isWordChar with
  | _ :: _, ':' :: rest => Text.trimLeft rest
  | _, _ => body

theorem consFirst_ne_nil (c : Char) (parts : List Text) : consFirst c parts ≠ [] := by
  cases parts <;> simp [consFirst]

theorem cutAtLone_ne_nil (afterSeparator : Bool) (t : Text) : cutAtLone afterSeparator t ≠ [] := by
  cases t with
  | nil => simp [cutAtLone]
  | cons c rest =>
    simp only [cutAtLone]
    split
    · split
      · simp
      · exact consFirst_ne_nil c _
    · exact consFirst_ne_nil c _

theorem segments_ne_nil (message : Text) : segments message ≠ [] := by
  rw [segments, ne_eq, List.map_eq_nil_iff]
  exact cutAtLone_ne_nil false message

end Variant
end Phrasebook
