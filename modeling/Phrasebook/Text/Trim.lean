import Phrasebook.Unicode.Blank

/-!
# Phrasebook.Text.Trim

Removing the white space at the ends of a text. `trimmed_trim` says that nothing blank is left at
either end.
-/

namespace Phrasebook
namespace Text

open Unicode

/-- The text from its first character that is not blank. -/
def trimLeft (t : Text) : Text :=
  t.dropWhile isBlank

/-- The text up to its last character that is not blank. -/
def trimRight (t : Text) : Text :=
  (trimLeft t.reverse).reverse

/-- The text without the blanks at its ends. -/
def trim (t : Text) : Text :=
  trimRight (trimLeft t)

/-- No blank at either end. -/
def Trimmed (t : Text) : Prop :=
  (∀ c, t.head? = some c → isBlank c = false) ∧ ∀ c, t.getLast? = some c → isBlank c = false

theorem head?_trimLeft {t : Text} {c : Char} (h : (trimLeft t).head? = some c) :
    isBlank c = false := by
  induction t with
  | nil => simp [trimLeft] at h
  | cons d rest ih =>
    simp only [trimLeft, List.dropWhile_cons] at h ih
    split at h
    · exact ih h
    · simp_all

theorem getLast?_trimRight {t : Text} {c : Char} (h : (trimRight t).getLast? = some c) :
    isBlank c = false := by
  rw [trimRight, List.getLast?_reverse] at h
  exact head?_trimLeft h

theorem trimLeft_suffix (t : Text) : trimLeft t <:+ t :=
  List.dropWhile_suffix _

theorem trimRight_isPrefix (t : Text) : trimRight t <+: t := by
  have h := trimLeft_suffix t.reverse
  rw [← List.reverse_prefix, List.reverse_reverse] at h
  exact h

theorem trimmed_trim (t : Text) : Trimmed (trim t) := by
  refine ⟨fun c h => ?_, fun c h => getLast?_trimRight h⟩
  obtain ⟨tail, ht⟩ := trimRight_isPrefix (trimLeft t)
  apply head?_trimLeft (t := t) (c := c)
  rw [trim] at h
  rw [← ht]
  cases hr : trimRight (trimLeft t) with
  | nil => rw [hr] at h; simp at h
  | cons d rest => rw [hr] at h; simpa using h

end Text
end Phrasebook
