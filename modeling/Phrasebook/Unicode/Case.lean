import Phrasebook.Unicode.CaseTable

/-!
# Phrasebook.Unicode.Case

The case mappings of single characters and the comparison that ignores case.

* `lowerImage`, `upperImage`: the full mappings; a few characters have several in their image.
* `lowerLetter`, `upperLetter`: the first character of the image, for comparisons letter by letter.
* `standsFor`: which characters of a text match a character of a name when case is ignored.
-/

namespace Phrasebook
namespace Unicode

/-- The image of a character under a mapping given by its expansions and its runs; a character in
neither is its own image. -/
def image (expansions : List (Nat × List Nat)) (runs : List CaseRun) (c : Char) : Text :=
  match expansions.lookup c.toNat with
  | some codes => codes.map Char.ofNat
  | none =>
    match runs.findSome? (·.imageOf? c.toNat) with
    | some code => [Char.ofNat code]
    | none => [c]

/-- The lower case of a character, sigma taken as in the middle of a word. -/
def lowerImage (c : Char) : Text :=
  image lowerExpansions lowerRuns c

/-- The upper case of a character. -/
def upperImage (c : Char) : Text :=
  image upperExpansions upperRuns c

/-- The first character of the lower case. -/
def lowerLetter (c : Char) : Char :=
  (lowerImage c).headD c

/-- The first character of the upper case. -/
def upperLetter (c : Char) : Char :=
  (upperImage c).headD c

/-- Whether case matters for the character at all. -/
def hasCase (c : Char) : Bool :=
  lowerLetter c != c || upperLetter c != c

/-- The other lower-case letters that count as the letter `c` when case is ignored. -/
def equivalents (c : Char) : Text :=
  ((equivalentTable.lookup c.toNat).getD []).map Char.ofNat

/-- Whether `c` may stand for the character `name` of a name when case is ignored. A character
without case stands only for itself. -/
def standsFor (name c : Char) : Bool :=
  if hasCase name then
    lowerLetter c == lowerLetter name || (equivalents (lowerLetter name)).contains (lowerLetter c)
  else
    c == name

theorem image_ne_nil {expansions : List (Nat × List Nat)} {runs : List CaseRun}
    (h : ∀ entry ∈ expansions, entry.2 ≠ []) (c : Char) : image expansions runs c ≠ [] := by
  unfold image
  split
  · rename_i codes hcodes
    obtain ⟨before, after, rfl, _⟩ := List.lookup_eq_some_iff.mp hcodes
    simpa using h (c.toNat, codes) (by simp)
  · split <;> simp

theorem lowerImage_ne_nil (c : Char) : lowerImage c ≠ [] :=
  image_ne_nil (by decide) c

/-- Whether the nearest character that is not ignorable, reading `t` from its front, has case. -/
def meetsCased (t : Text) : Bool :=
  match t.dropWhile (inRanges ignorableRanges) with
  | [] => false
  | c :: _ => inRanges casedRanges c

end Unicode
end Phrasebook
