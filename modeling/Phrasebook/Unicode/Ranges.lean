import Phrasebook.Text.Basic

/-!
# Phrasebook.Unicode.Ranges

A class of characters is given by the ranges of its code points, each with both ends. `inRanges`
looks a character up; the tables beside this module are written with it.
-/

namespace Phrasebook
namespace Unicode

/-- Whether the code point of `c` lies in one of the ranges, ends included. -/
def inRanges (ranges : List (Nat × Nat)) (c : Char) : Bool :=
  ranges.any fun (first, last) => first ≤ c.toNat && c.toNat ≤ last

theorem inRanges_iff {ranges : List (Nat × Nat)} {c : Char} :
    inRanges ranges c = true ↔ ∃ r ∈ ranges, r.1 ≤ c.toNat ∧ c.toNat ≤ r.2 := by
  simp [inRanges]

end Unicode
end Phrasebook
