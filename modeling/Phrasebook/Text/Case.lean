import Phrasebook.Unicode.Case

/-!
# Phrasebook.Text.Case

Upper and lower case of whole texts. The lower case of a capital sigma depends on its place: at the
end of a word it is the final form.
-/

namespace Phrasebook
namespace Text

open Unicode

/-- The lower case of a text that follows `before`, which is given in reverse. -/
def lowerAfter (before : Text) : Text → Text
  | [] => []
  | c :: rest =>
    if c = 'Σ' then
      (if meetsCased before && !meetsCased rest then 'ς' else 'σ') :: lowerAfter (c :: before) rest
    else
      lowerImage c ++ lowerAfter (c :: before) rest

/-- The text in lower case. -/
def lower (t : Text) : Text :=
  lowerAfter [] t

/-- The text in upper case. -/
def upper (t : Text) : Text :=
  t.flatMap upperImage

/-- The text with its first character in upper case. -/
def capitalize : Text → Text
  | [] => []
  | c :: rest => upperImage c ++ rest

/-- Whether two texts differ in case only. -/
def equalIgnoringCase (a b : Text) : Bool :=
  lower a == lower b

theorem lowerAfter_eq_nil_iff (before t : Text) : lowerAfter before t = [] ↔ t = [] := by
  cases t with
  | nil => simp [lowerAfter]
  | cons c rest =>
    simp only [lowerAfter]
    split <;> simp [lowerImage_ne_nil]

theorem lower_eq_nil_iff (t : Text) : lower t = [] ↔ t = [] :=
  lowerAfter_eq_nil_iff [] t

end Text
end Phrasebook
