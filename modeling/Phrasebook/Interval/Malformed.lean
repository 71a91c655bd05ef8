import Phrasebook.Interval.Token
import Phrasebook.Numeral.Integer

/-!
# Phrasebook.Interval.Malformed

What can be wrong with the notation of an interval, and how it is reported.
-/

namespace Phrasebook
namespace Interval

/-- Why a text is not the notation of an interval. -/
inductive Reason where
  | empty
  | badStart (found : Text)
  | unexpectedToken (expected : List TokenKind) (found : Text)
  | unexpectedEnd
  | strayCharacter (c : Char)
  | trailing (found : Text)
deriving DecidableEq, Repr

def Reason.text : Reason → Text
  | .empty => "empty interval".toList
  | .badStart found =>
    "interval must start with '\x7b', '[' or ']', found ".toList ++ Text.quoted found
  | .unexpectedToken expected found =>
    "expected ".toList ++ Text.joinWith " or ".toList (expected.map TokenKind.word) ++
      ", found ".toList ++ Text.quoted found
  | .unexpectedEnd => "unexpected end of input".toList
  | .strayCharacter c => "unexpected character ".toList ++ Text.quoted [c]
  | .trailing found => "unexpected trailing ".toList ++ Text.quoted found

/-- A defect of the notation and the position where it shows. -/
structure Defect where
  position : Nat
  reason : Reason
deriving DecidableEq, Repr

/-- What stops the reading of an interval: a defect of the notation, or a number that cannot be
read. -/
inductive Fault where
  | malformed (defect : Defect)
  | integer (error : Numeral.IntegerError)
deriving DecidableEq, Repr

/-- The defect at the place where the tokens of a text end. -/
def Ending.defect : Ending → Defect
  | .endOfText length => ⟨length, .unexpectedEnd⟩
  | .stray position c => ⟨position, .strayCharacter c⟩

/-- A malformed interval as it is reported: its text, the position of the defect if it is known,
and the reason, which may be left out. -/
structure Report where
  interval : Text
  position : Option Int
  reason : Text
deriving DecidableEq, Repr

def Report.message (report : Report) : Text :=
  let head := "Invalid interval: ".toList ++ report.interval
  if report.reason = [] then head else head ++ " (".toList ++ report.reason ++ [')']

/-- The report of a defect in the given text. -/
def Defect.report (interval : Text) (defect : Defect) : Report :=
  ⟨interval, some defect.position, defect.reason.text⟩

end Interval
end Phrasebook
