/-!
# Phrasebook.Interval.Basic

Sets of integers that guard a variant of a message: finite sets such as `{0}` or `{1,2,3}`, and
ranges such as `[1,10[` or `]-Inf,0]`, whose bounds may be infinite and may belong to the range or
not. `contains_set` and `contains_range_int` say which counts an interval contains.
-/

namespace Phrasebook

/-- A bound of a range. -/
inductive Bound where
  | negInf
  | int (n : Int)
  | posInf
deriving DecidableEq, Repr

namespace Bound

/-- Whether `count` lies to the right of the bound. -/
def isBelow (bound : Bound) (inclusive : Bool) (count : Int) : Bool :=
  match bound with
  | .negInf => true
  | .int n => if inclusive then n ≤ count else n < count
  | .posInf => false

/-- Whether `count` lies to the left of the bound. -/
def isAbove (bound : Bound) (inclusive : Bool) (count : Int) : Bool :=
  match bound with
  | .negInf => false
  | .int n => if inclusive then count ≤ n else count < n
  | .posInf => true

end Bound

/-- A set of integers. A finite set keeps its numbers as they were written. -/
inductive Interval where
  | set (values : List Int)
  | range (low high : Bound) (leftInclusive rightInclusive : Bool)
deriving DecidableEq, Repr

namespace Interval

def contains : Interval → Int → Bool
  | .set values, count => values.contains count
  | .range low high leftInclusive rightInclusive, count =>
    low.isBelow leftInclusive count && high.isAbove rightInclusive count

@[simp]
theorem contains_set {values : List Int} {count : Int} :
    contains (.set values) count = true ↔ count ∈ values := by
  simp [contains]

@[simp]
theorem contains_range_int {low high count : Int} :
    contains (.range (.int low) (.int high) true false) count = true ↔
      low ≤ count ∧ count < high := by
  simp [contains, Bound.isBelow, Bound.isAbove]

end Interval
end Phrasebook
