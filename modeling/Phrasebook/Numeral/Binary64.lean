/-!
# Phrasebook.Numeral.Binary64

The numbers of the binary64 format, with exact values.

The magnitudes are numbered from zero upwards: `0` is zero, `1` the least positive magnitude, and
`infinityIndex` comes right after the greatest finite one. In this numbering the order of magnitudes
is the order of their indices, and the number after an index is the next representable one.

* `scaled`: the value of a magnitude, as a multiple of the least positive one.
* `nearest`: the index of the magnitude nearest to a fraction, ties going to the even index.
* `Binary64.lt`: the order of the numbers, in which NaN is unrelated to everything.
-/

namespace Phrasebook

/-- A number of the binary64 format. -/
inductive Binary64 where
  | nan
  | number (negative : Bool) (index : Nat)
deriving DecidableEq, Repr

namespace Binary64

/-- The number of magnitudes that share an exponent. -/
def binade : Nat := 1 <<< 52

/-- The index of infinity. -/
def infinityIndex : Nat := 2047 * binade

/-- The least positive magnitude is one, halved this often. -/
def halvings : Nat := 1074

/-- The value of the magnitude with the given index, as a multiple of the least positive one. -/
def scaled (index : Nat) : Nat :=
  if index < binade then index
  else (binade + index % binade) <<< (index / binade - 1)

/-- A fraction rounded to a natural number, ties going to the even one. -/
def roundHalfEven (numerator denominator : Nat) : Nat :=
  let quotient := numerator / denominator
  let doubled := 2 * (numerator % denominator)
  if doubled < denominator || (doubled = denominator && quotient % 2 = 0) then quotient
  else quotient + 1

/-- The index of the magnitude nearest to a fraction, at most that of infinity. In the binade of the
value the magnitudes are `2 ^ shift` least ones apart: the index is the rounded number of such
steps, plus the magnitudes in the `shift` binades below. -/
def nearest (numerator denominator : Nat) : Nat :=
  let steps := numerator <<< halvings
  let shift := (steps / denominator).log2 - 52
  min infinityIndex (shift * binade + roundHalfEven steps (denominator <<< shift))

/-- A number of either sign with the value of a fraction, rounded. -/
def ofFraction (negative : Bool) (numerator denominator : Nat) : Binary64 :=
  .number negative (nearest numerator denominator)

def infinity (negative : Bool) : Binary64 :=
  .number negative infinityIndex

def one : Binary64 :=
  ofFraction false 1 1

/-- A number's place in the order; the two zeros share theirs, and NaN has none. -/
def place? : Binary64 → Option Int
  | .nan => none
  | .number negative index => some (if negative then -index else index)

def isNaN (x : Binary64) : Bool :=
  x == .nan

/-- Whether `x` is less than `y`. -/
def lt (x y : Binary64) : Bool :=
  match x.place?, y.place? with
  | some a, some b => a < b
  | _, _ => false

end Binary64
end Phrasebook
