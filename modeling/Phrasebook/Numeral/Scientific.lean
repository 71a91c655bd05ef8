import Phrasebook.Numeral.Binary64
import Phrasebook.Numeral.Digits

/-!
# Phrasebook.Numeral.Scientific

Reading binary64 numbers from decimal notation: digits with a point among them, an exponent, or one
of the words for infinity and NaN, in any case. The value is rounded once, from the exact decimal
fraction.
-/

namespace Phrasebook
namespace Numeral

/-- Beyond this power of ten everything is infinite, or zero. -/
def exponentBound : Int := 400

/-- The number with the given digits, multiplied by `10 ^ exponent` and rounded. -/
def ofScientific (negative : Bool) (digits : List Nat) (exponent : Int) : Binary64 :=
  let n := ofDigits digits
  if n = 0 then .number negative 0
  else if exponentBound < exponent then .infinity negative
  else if exponent + digits.length < -exponentBound then .number negative 0
  else .ofFraction negative (n * Nat.pow 10 exponent.toNat) (Nat.pow 10 (-exponent).toNat)

/-- The digits after a decimal point, if the text starts with a point. -/
def fraction? : Text → Option (List Nat × Text)
  | '.' :: rest => digitRun? rest
  | t => some ([], t)

/-- The exponent of a numeral, zero if it has none. All of the text must belong to it. -/
def exponent? : Text → Option Int
  | [] => some 0
  | c :: rest =>
    if c = 'e' || c = 'E' then
      let (negative, body) := splitSign rest
      match digitRun? body with
      | some (d :: digits, []) =>
        let n := ofDigits (d :: digits)
        some (if negative then -n else n)
      | _ => none
    else none

/-- The words for infinity and NaN. -/
def word? (negative : Bool) (t : Text) : Option Binary64 :=
  let word := t.map Char.toLower
  if word = "inf".toList || word = "infinity".toList then some (.infinity negative)
  else if word = "nan".toList then some .nan
  else none

/-- A numeral without sign. -/
def unsigned? (negative : Bool) (t : Text) : Option Binary64 := do
  let (whole, afterWhole) ← digitRun? t
  let (fraction, afterFraction) ← fraction? afterWhole
  let exponent ← exponent? afterFraction
  match whole ++ fraction with
  | [] => none
  | digits => some (ofScientific negative digits (exponent - fraction.length))

/-- The number that a text denotes, if it denotes one. -/
def readBinary64? (t : Text) : Option Binary64 :=
  let (negative, body) := splitSign (trimPadding t)
  (word? negative body).or (unsigned? negative body)

end Numeral
end Phrasebook
