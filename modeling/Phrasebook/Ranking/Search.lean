/-!
# Phrasebook.Ranking.Search

Where the elements that stay in front end, found with few looks. All searches look at an element
through a test, and never assume that the elements that pass it stand together: for a relation that is
no order, what they find depends on where they look.

* `halve`: looks at the middle of what is left.
* `gallop`: looks at the positions 0, 1, 3, 7, … and then halves the last gap.
-/

namespace Phrasebook
namespace Ranking

variable {α : Type}

/-- The middle that is looked at where a range has two of them. -/
inductive Middle where
  | upper
  | lower
deriving DecidableEq, Repr

/-- The distance from the start of a range to its middle. -/
def Middle.of (middle : Middle) (width : Nat) : Nat :=
  match middle with
  | upper => width / 2
  | lower => (width - 1) / 2

theorem Middle.of_lt (middle : Middle) {width : Nat} (h : width ≠ 0) : middle.of width < width := by
  cases middle <;> simp only [Middle.of] <;> omega

/-- The end of the elements that stay, somewhere from `start` on and at most `width` further. -/
def halve (middle : Middle) (stays : Nat → Bool) (start width : Nat) : Nat :=
  if h : width = 0 then start
  else
    have := middle.of_lt h
    if stays (start + middle.of width) then
      halve middle stays (start + middle.of width + 1) (width - (middle.of width + 1))
    else halve middle stays start (middle.of width)
termination_by width

/-- Doubles the distance as long as the elements that are met stay: the last one that does, and the
first position behind it that is not known to. -/
def leap (stays : Nat → Bool) (size last next : Nat) : Nat × Nat :=
  if h : next < size then
    if stays next then leap stays size next (2 * next + 1) else (last, next)
  else (last, size)
termination_by size - next

/-- How many elements at the front of a list stay there. -/
def gallop (middle : Middle) (stays : α → Bool) (xs : List α) : Nat :=
  let test := fun i => xs[i]?.any stays
  if test 0 then
    let (last, next) := leap test xs.length 0 1
    halve middle test (last + 1) (next - (last + 1))
  else 0

/-- The list with `x` put in by halving, behind the elements that it is not less than. -/
def insertByHalving (less : α → α → Bool) (x : α) (xs : List α) : List α :=
  let place := halve .upper (fun i => xs[i]?.any fun y => !less x y) 0 xs.length
  xs.take place ++ x :: xs.drop place

theorem perm_insertByHalving (less : α → α → Bool) (x : α) (xs : List α) :
    (insertByHalving less x xs).Perm (x :: xs) := by
  simp only [insertByHalving]
  generalize halve _ _ _ _ = place
  exact List.perm_middle.trans (by rw [List.take_append_drop])

end Ranking
end Phrasebook
