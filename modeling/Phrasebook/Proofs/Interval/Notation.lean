import Phrasebook.Interval.Basic
import Phrasebook.Numeral.Digits
import Phrasebook.Proofs.Text.Blanks

/-!
# Phrasebook.Proofs.Interval.Notation

The notation of intervals as a grammar, apart from any reader of it. It has two levels.

* `Number`, `Infinity`, `LowBound`, `HighBound`: single words, with what they stand for. No word has
  white space in it.
* `SetWords`, `Words`: the sequences of words that make an interval.

`Spells` lays words out as a text, with white space around and between them as one likes, and
`Denotes` puts the two levels together.
-/

namespace Phrasebook
namespace Interval

open Unicode Text

/-! ## Words -/

/-- One or more ASCII digits. -/
def Digits (t : Text) : Prop :=
  t ≠ [] ∧ ∀ c ∈ t, isAsciiDigit c = true

/-- The number that ASCII digits denote. -/
def magnitude (digits : Text) : Nat :=
  Numeral.ofDigits (digits.map fun c => c.toNat - '0'.toNat)

/-- Nothing, or a point and digits. -/
inductive Fraction : Text → Prop where
  | none : Fraction []
  | digits {d : Text} : Digits d → Fraction ('.' :: d)

/-- A number and its integer part, for which only the digits before the point count. -/
inductive Number : Text → Int → Prop where
  | positive {whole fraction : Text} :
      Digits whole → Fraction fraction → Number (whole ++ fraction) (magnitude whole)
  | negative {whole fraction : Text} :
      Digits whole → Fraction fraction → Number ('-' :: (whole ++ fraction)) (-magnitude whole)

/-- The spellings of an infinite bound. -/
inductive Infinity : Text → Prop where
  | minus : Infinity ['-', 'I', 'n', 'f']
  | plus : Infinity ['+', 'I', 'n', 'f']
  | unsigned : Infinity ['I', 'n', 'f']
  | star : Infinity ['*']

/-- A left bound. Every infinity on the left is the negative one. -/
inductive LowBound : Text → Bound → Prop where
  | number {w : Text} {n : Int} : Number w n → LowBound w (.int n)
  | infinity {w : Text} : Infinity w → LowBound w .negInf

/-- A right bound. -/
inductive HighBound : Text → Bound → Prop where
  | number {w : Text} {n : Int} : Number w n → HighBound w (.int n)
  | negInf : HighBound ['-', 'I', 'n', 'f'] .negInf
  | posInf {w : Text} : Infinity w → w ≠ ['-', 'I', 'n', 'f'] → HighBound w .posInf

/-! ## Sequences of words -/

/-- The words of a set after its opening brace, and the numbers in their order. -/
inductive SetWords : List Text → List Int → Prop where
  | last {w : Text} {n : Int} : Number w n → SetWords [w, ['}']] [n]
  | more {w : Text} {n : Int} {words : List Text} {values : List Int} :
      Number w n → SetWords words values → SetWords (w :: [','] :: words) (n :: values)

/-- The words of an interval, and the interval. -/
inductive Words : List Text → Interval → Prop where
  | set {words : List Text} {values : List Int} :
      SetWords words values → Words (['{'] :: words) (.set values)
  | range {left right : Char} {lowWord highWord : Text} {low high : Bound} :
      left = '[' ∨ left = ']' → LowBound lowWord low → HighBound highWord high →
      right = '[' ∨ right = ']' →
      Words [[left], lowWord, [','], highWord, [right]]
        (.range low high (left = '[') (right = ']'))

/-! ## Texts -/

/-- The text is the words in their order, with white space around and between them. -/
inductive Spells : List Text → Text → Prop where
  | nil {gap : Text} : AllBlank gap → Spells [] gap
  | cons {gap w t : Text} {words : List Text} :
      AllBlank gap → Spells words t → Spells (w :: words) (gap ++ (w ++ t))

/-- The text conforms to the notation, and this is the interval that it denotes. -/
def Denotes (t : Text) (interval : Interval) : Prop :=
  ∃ words, Spells words t ∧ Words words interval

/-- No run of ASCII digits in the text is longer than `limit`. -/
def DigitRunsWithin (limit : Nat) (t : Text) : Prop :=
  ∀ run, run <:+: t → (∀ c ∈ run, isAsciiDigit c = true) → run.length ≤ limit

/-! ## Layout -/

theorem Spells.blanks_left {gap t : Text} {words : List Text} (hgap : AllBlank gap)
    (h : Spells words t) : Spells words (gap ++ t) := by
  cases h with
  | nil ht => exact .nil (hgap.append ht)
  | cons hw h =>
    rw [← List.append_assoc]
    exact .cons (hgap.append hw) h

theorem Spells.blanks_right {gap t : Text} {words : List Text} (hgap : AllBlank gap)
    (h : Spells words t) : Spells words (t ++ gap) := by
  induction h with
  | nil ht => exact .nil (ht.append hgap)
  | cons hw _ ih =>
    rw [List.append_assoc, List.append_assoc]
    exact .cons hw ih

/-- Every word is a part of the text. -/
theorem Spells.part {t : Text} {words : List Text} (h : Spells words t) :
    ∀ w ∈ words, w <:+: t := by
  induction h with
  | nil => simp
  | @cons gap w t words _ _ ih =>
    intro v hv
    rcases List.mem_cons.mp hv with rfl | hv
    · exact ⟨gap, t, by simp⟩
    · obtain ⟨before, after, rfl⟩ := ih v hv
      exact ⟨gap ++ w ++ before, after, by simp⟩

theorem Spells.append {a b : Text} {words more : List Text} (ha : Spells words a)
    (hb : Spells more b) : Spells (words ++ more) (a ++ b) := by
  induction ha with
  | nil hgap => exact hb.blanks_left hgap
  | cons hgap _ ih =>
    rw [List.append_assoc, List.append_assoc]
    exact .cons hgap ih

/-- Words with nothing between them. -/
theorem spells_flatten (words : List Text) : Spells words words.flatten := by
  induction words with
  | nil => exact .nil allBlank_nil
  | cons w words ih => exact .cons allBlank_nil ih

/-- A word with no blank at either end. -/
def Solid (w : Text) : Prop :=
  StartsSolid w ∧ StartsSolid w.reverse

/-- Trimming a text does not change the words that it spells. -/
theorem Spells.trim {t : Text} {words : List Text} (hwords : ∀ w ∈ words, Solid w)
    (h : Spells words t) : Spells words (Text.trim t) := by
  have right : ∀ {t : Text} {words : List Text}, (∀ w ∈ words, Solid w) → Spells words t →
      Spells words (trimRight t) := by
    intro t words hwords h
    induction h with
    | nil ht => rw [trimRight_eq_nil ht]; exact .nil allBlank_nil
    | @cons gap w t words hgap _ ih =>
      have hw := hwords w (by simp)
      rw [← List.append_assoc, trimRight_append, List.append_assoc]
      · exact .cons hgap (ih fun w hw => hwords w (by simp [hw]))
      · rw [List.reverse_append]
        exact hw.2.append _
  apply right hwords
  cases h with
  | nil ht => rw [trimLeft_eq_nil ht]; exact .nil allBlank_nil
  | @cons gap w t words hgap h =>
    have hw := hwords w (by simp)
    rw [trimLeft_append hgap (hw.1.append t)]
    have hcore : Spells (w :: words) ([] ++ (w ++ t)) := .cons allBlank_nil h
    exact hcore

theorem Denotes.of_trim {t : Text} {interval : Interval} (h : Denotes (Text.trim t) interval) :
    Denotes t interval := by
  obtain ⟨words, hspells, hwords⟩ := h
  obtain ⟨before, after, hbefore, hafter, ht⟩ := exists_blanks_around t
  rw [ht]
  exact ⟨words, (hspells.blanks_right hafter).blanks_left hbefore, hwords⟩

theorem DigitRunsWithin.of_part {limit : Nat} {s t : Text} (h : DigitRunsWithin limit t)
    (hs : s <:+: t) : DigitRunsWithin limit s :=
  fun run hrun hdigits => h run (hrun.trans hs) hdigits

theorem digitRunsWithin_of_length {limit : Nat} {t : Text} (h : t.length ≤ limit) :
    DigitRunsWithin limit t :=
  fun _ hrun _ => Nat.le_trans hrun.length_le h

end Interval
end Phrasebook
