import Phrasebook.Numeral.Binary64
import Phrasebook.Numeral.Digits

/-!
# Phrasebook.Numeral.Shortest

Writing binary64 numbers. A finite number is written with the fewest decimal digits that read back
as it; of the numerals with that many digits the nearest is taken, an even last digit deciding a
tie. The notation is positional where the exponent of the first digit is from -4 to 15, and
scientific elsewhere.
-/

namespace Phrasebook
namespace Numeral

/-- A decimal numeral: `0.d₁d₂d₃…` times `10 ^ point`. -/
structure Decimal where
  digits : Text
  point : Int
deriving DecidableEq, Repr

/-- The number of units in one. Magnitudes and the midpoints between them are whole numbers of
units. -/
def unitsInOne : Nat := 1 <<< (Binary64.halvings + 1)

/-- The number of digits before the point of `n` units, negative if zeros follow the point. -/
def pointOf (n : Nat) : Int :=
  (Nat.toDigits 10 (n * Nat.pow 10 400 / unitsInOne)).length - 400

/-- The numeral of `count` digits that is nearest to a magnitude, if a numeral of `count` digits
reads back as the magnitude. All comparisons are between natural numbers: `numerator` and
`denominator` bring the magnitude onto the grid of the numerals. -/
def shortestOf? (index count : Nat) : Option Decimal :=
  let value := 2 * Binary64.scaled index
  let low := Binary64.scaled (index - 1) + Binary64.scaled index
  let high := Binary64.scaled index + Binary64.scaled (index + 1)
  let point := pointOf value
  let shift := count - point
  let numerator := Nat.pow 10 shift.toNat
  let denominator := unitsInOne * Nat.pow 10 (-shift).toNat
  let readsBack (n : Nat) : Bool :=
    if index % 2 = 0 then
      low * numerator ≤ n * denominator && n * denominator ≤ high * numerator
    else
      low * numerator < n * denominator && n * denominator < high * numerator
  let lower := value * numerator / denominator
  let upper := lower + 1
  let nearest := Binary64.roundHalfEven (value * numerator) denominator
  let other := if nearest = lower then upper else lower
  let decimalOf (n : Nat) : Decimal :=
    let digits := Nat.toDigits 10 n
    ⟨(digits.reverse.dropWhile (· = '0')).reverse, digits.length - shift⟩
  if readsBack nearest then some (decimalOf nearest)
  else if readsBack other then some (decimalOf other)
  else none

/-- The fewest digits that read back as a positive magnitude. -/
def shortest (index : Nat) : Decimal :=
  ((List.range 17).findSome? fun n => shortestOf? index (n + 1)).getD ⟨[], 0⟩

/-- An exponent with its sign and at least two digits. -/
def exponentText (exponent : Int) : Text :=
  (if exponent < 0 then '-' else '+') :: List.leftpad 2 '0' (Nat.toDigits 10 exponent.natAbs)

/-- A numeral in scientific notation, with no point after a single digit. -/
def scientificText (numeral : Decimal) : Text :=
  let mantissa :=
    match numeral.digits with
    | [] => []
    | [d] => [d]
    | d :: rest => d :: '.' :: rest
  mantissa ++ 'e' :: exponentText (numeral.point - 1)

/-- A numeral in positional notation, with at least one digit on either side of the point. -/
def positionalText (numeral : Decimal) : Text :=
  let before := numeral.point.toNat
  let whole := numeral.digits.take before
  let fraction := List.replicate (-numeral.point).toNat '0' ++ numeral.digits.drop before
  (if whole = [] then ['0'] else whole ++ List.replicate (before - whole.length) '0') ++
    '.' :: (if fraction = [] then ['0'] else fraction)

/-- A magnitude in decimal notation. -/
def magnitudeText (index : Nat) : Text :=
  if index = 0 then "0.0".toList
  else if index = Binary64.infinityIndex then "inf".toList
  else
    let numeral := shortest index
    if -4 < numeral.point && numeral.point ≤ 16 then positionalText numeral
    else scientificText numeral

/-- A number in decimal notation. -/
def binary64Text : Binary64 → Text
  | .nan => "nan".toList
  | .number negative index => if negative then '-' :: magnitudeText index else magnitudeText index

end Numeral
end Phrasebook
