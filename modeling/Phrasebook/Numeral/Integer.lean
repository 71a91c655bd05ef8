import Phrasebook.Numeral.Digits
import Phrasebook.Text.Quoted

/-!
# Phrasebook.Numeral.Integer

Reading and writing integers. A numeral has at most one sign, decimal digits of any script with single
low lines between them, and padding around it. Numerals of more than `digitLimit` digits are refused,
before anything that follows the digits is looked at.

Integers of more than `digitLimit` digits are not written either: `writeInteger`.
-/

namespace Phrasebook
namespace Numeral

/-- The greatest number of digits of a numeral, leading zeros included. -/
def digitLimit : Nat := 4300

/-- Why a text is not read as an integer, or an integer not written. -/
inductive IntegerError where
  | invalid (text : Text)
  | tooManyDigits (count : Nat)
  /-- The text of an integer would have too many digits. -/
  | unwritable
deriving DecidableEq, Repr

/-- The greatest length of the quoted text inside a message. -/
def quoteLimit : Nat := 200

/-- The message about the limit; `found` tells how many digits there were, where it is known. -/
def limitMessage (found : Text) : Text :=
  "Exceeds the limit (".toList ++ decimal digitLimit ++
    " digits) for integer string conversion".toList ++ found ++
    "; use sys.set_int_max_str_digits() to increase the limit".toList

def IntegerError.message : IntegerError → Text
  | .invalid text =>
    "invalid literal for int() with base 10: ".toList ++ (Text.quoted text).take quoteLimit
  | .tooManyDigits count =>
    limitMessage (": value has ".toList ++ decimal count ++ " digits".toList)
  | .unwritable => limitMessage []

/-- The integer with the given sign and digits. -/
def signed (negative : Bool) (n : Nat) : Int :=
  if negative then -n else n

/-- The integer that a text denotes. -/
def readInteger (t : Text) : Except IntegerError Int :=
  let (negative, body) := splitSign (trimPadding t)
  match digitRun? body with
  | none => .error (.invalid t)
  | some ([], _) => .error (.invalid t)
  | some (digits, rest) =>
    if digitLimit < digits.length then .error (.tooManyDigits digits.length)
    else if rest = [] then .ok (signed negative (ofDigits digits))
    else .error (.invalid t)

/-! ## Writing -/

/-- The integer has a text. -/
def Writable (n : Int) : Prop :=
  (Nat.toDigits 10 n.natAbs).length ≤ digitLimit

instance (n : Int) : Decidable (Writable n) :=
  inferInstanceAs (Decidable (_ ≤ _))

/-- The text of an integer. -/
def writeInteger (n : Int) : Except IntegerError Text :=
  if Writable n then .ok (decimal n) else .error .unwritable

@[simp]
theorem writeInteger_of_writable {n : Int} (h : Writable n) : writeInteger n = .ok (decimal n) :=
  if_pos h

@[simp]
theorem writeInteger_of_not_writable {n : Int} (h : ¬ Writable n) :
    writeInteger n = .error .unwritable :=
  if_neg h

/-! ## Literals -/

/-- The integer part of a decimal literal: what stands before the first point. -/
def integerPart (t : Text) : Except IntegerError Int :=
  readInteger (t.takeWhile (· != '.'))

end Numeral
end Phrasebook
