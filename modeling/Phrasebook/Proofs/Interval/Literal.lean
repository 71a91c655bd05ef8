import Mathlib.Algebra.Order.Field.Power
import Mathlib.Data.Rat.Floor
import Mathlib.Tactic.Linarith
import Mathlib.Tactic.NormNum
import Mathlib.Tactic.Positivity
import Mathlib.Tactic.Ring
import Phrasebook.Proofs.Interval.Lexeme

/-!
# Phrasebook.Proofs.Interval.Literal

What a number is worth as it is written, and what of it is read. The value is the exact fraction: each
digit counts for a power of ten that its place gives, behind the point as before it. Only the integer
part is read, which for a negative number is not the next integer below.

* `lexeme?_eq_number_iff`: the literals are the texts that are one number token.
* `placeValue_whole`, `placeValue_lt`: the digits before the point make up an integer, and those
  behind it less than one.
* `towardZero_natCast_add`, `towardZero_neg`: rounding toward zero drops what is less than one, on
  both sides of zero.

`integerPart_eq_towardZero` puts them together: what is read is the value, rounded toward zero.
-/

namespace Phrasebook
namespace Interval

open Unicode

/-! ## Values -/

/-- The value of digits, of which the first counts for `10 ^ exponent`. -/
def placeValue (exponent : ℤ) : Text → ℚ
  | [] => 0
  | c :: rest => (c.toNat - '0'.toNat : ℕ) * 10 ^ exponent + placeValue (exponent - 1) rest

/-- The integer next to a fraction on the side of zero, or the fraction itself if it is an integer. -/
def towardZero (q : ℚ) : ℤ :=
  if 0 ≤ q then ⌊q⌋ else ⌈q⌉

/-- A number as it is written. There is a point in it if there are digits behind the point. -/
structure Literal where
  negative : Bool
  whole : Text
  fraction : Text
  digits_whole : Digits whole
  isAsciiDigit_fraction : ∀ c ∈ fraction, isAsciiDigit c = true

namespace Literal

/-- The point and the digits behind it. -/
def pointed (l : Literal) : Text :=
  if l.fraction = [] then [] else '.' :: l.fraction

def text (l : Literal) : Text :=
  if l.negative then '-' :: (l.whole ++ l.pointed) else l.whole ++ l.pointed

/-- The value without the sign. -/
def size (l : Literal) : ℚ :=
  placeValue (l.whole.length - 1) (l.whole ++ l.fraction)

/-- The exact value. -/
def value (l : Literal) : ℚ :=
  if l.negative then -l.size else l.size

end Literal

/-! ## Texts -/

theorem Literal.fraction_pointed (l : Literal) : Fraction l.pointed := by
  rw [pointed]
  split
  · exact .none
  · rename_i hne
    exact .digits ⟨hne, l.isAsciiDigit_fraction⟩

theorem Literal.exists_number (l : Literal) : ∃ n, Number l.text n := by
  rw [text]
  split
  · exact ⟨_, .negative l.digits_whole l.fraction_pointed⟩
  · exact ⟨_, .positive l.digits_whole l.fraction_pointed⟩

/-- The parts that the grammar gives a number are those of a literal. -/
theorem exists_literal_of_parts (negative : Bool) {whole fraction : Text} (hwhole : Digits whole)
    (hfraction : Fraction fraction) :
    ∃ l : Literal, l.negative = negative ∧ l.whole = whole ∧ l.pointed = fraction := by
  cases hfraction with
  | none => exact ⟨⟨negative, whole, [], hwhole, by simp⟩, rfl, rfl, rfl⟩
  | @digits d hd => exact ⟨⟨negative, whole, d, hwhole, hd.2⟩, rfl, rfl, if_neg hd.1⟩

theorem Number.exists_literal {t : Text} {n : Int} (h : Number t n) :
    ∃ l : Literal, l.text = t := by
  cases h with
  | positive hwhole hfraction =>
    obtain ⟨l, hnegative, rfl, rfl⟩ := exists_literal_of_parts false hwhole hfraction
    exact ⟨l, by simp [Literal.text, hnegative]⟩
  | negative hwhole hfraction =>
    obtain ⟨l, hnegative, rfl, rfl⟩ := exists_literal_of_parts true hwhole hfraction
    exact ⟨l, by simp [Literal.text, hnegative]⟩

theorem lexeme?_eq_number_iff (t : Text) :
    lexeme? t = some (.number, t) ↔ ∃ l : Literal, l.text = t := by
  constructor
  · intro h
    cases lexeme?_sound h with
    | number hn => exact hn.exists_literal
    | symbol hc => exact absurd hc symbol?_ne_number
  · rintro ⟨l, rfl⟩
    obtain ⟨n, hn⟩ := l.exists_number
    simpa using lexeme?_append (.number hn) fun _ => stops_nil

/-! ## Digits and places -/

theorem placeValue_append (exponent : ℤ) (a b : Text) :
    placeValue exponent (a ++ b) = placeValue exponent a + placeValue (exponent - a.length) b := by
  induction a generalizing exponent with
  | nil => simp [placeValue]
  | cons c a ih =>
    have hplace : exponent - 1 - a.length = exponent - (a.length + 1) := by ring
    rw [List.cons_append, placeValue, placeValue, ih, List.length_cons, Nat.cast_succ, hplace,
      add_assoc]

theorem placeValue_whole (d : Text) : placeValue (d.length - 1) d = magnitude d := by
  induction d with
  | nil => rfl
  | cons c d ih =>
    have hplace : ((c :: d).length : ℤ) - 1 = d.length := by simp
    have hcons : magnitude (c :: d) = (c.toNat - '0'.toNat) * 10 ^ d.length + magnitude d := by
      have h := Numeral.ofDigits_cons (c.toNat - '0'.toNat) (d.map fun c => c.toNat - '0'.toNat)
      rwa [List.length_map] at h
    rw [hplace, placeValue, ih, hcons, zpow_natCast]
    push_cast
    rfl

theorem placeValue_nonneg (exponent : ℤ) (t : Text) : 0 ≤ placeValue exponent t := by
  induction t generalizing exponent with
  | nil => exact le_rfl
  | cons c t ih =>
    have hrest := ih (exponent - 1)
    rw [placeValue]
    positivity

/-- Digits are worth less than one more at the place in front of them, however many they are. -/
theorem placeValue_lt {t : Text} (h : ∀ c ∈ t, isAsciiDigit c = true) (exponent : ℤ) :
    placeValue exponent t < 10 ^ (exponent + 1) := by
  induction t generalizing exponent with
  | nil =>
    rw [placeValue]
    positivity
  | cons c t ih =>
    obtain ⟨hc, ht⟩ := List.forall_mem_cons.mp h
    have hdigit : ((c.toNat - '0'.toNat : ℕ) : ℚ) ≤ 9 := by
      have hrange := isAsciiDigit_iff.mp hc
      have hzero : '0'.toNat = 48 := rfl
      exact_mod_cast (by omega : c.toNat - '0'.toNat ≤ 9)
    have hrest : placeValue (exponent - 1) t < 10 ^ exponent := by
      have hlt := ih ht (exponent - 1)
      rwa [sub_add_cancel] at hlt
    have hplace : (0 : ℚ) ≤ 10 ^ exponent := by positivity
    -- at most nine times the place from the digit, and less than once the place from the others
    calc placeValue exponent (c :: t)
        < 9 * 10 ^ exponent + 10 ^ exponent := by
          rw [placeValue]
          exact add_lt_add_of_le_of_lt (mul_le_mul_of_nonneg_right hdigit hplace) hrest
      _ = 10 ^ (exponent + 1) := by
          rw [zpow_add_one₀ (by norm_num)]
          ring

/-- The value without the sign is the number before the point and less than one behind it. -/
theorem Literal.size_eq (l : Literal) :
    ∃ part : ℚ, 0 ≤ part ∧ part < 1 ∧ l.size = magnitude l.whole + part := by
  refine ⟨placeValue (-1) l.fraction, placeValue_nonneg _ _, ?_, ?_⟩
  · simpa using placeValue_lt l.isAsciiDigit_fraction (-1)
  · rw [size, placeValue_append, placeValue_whole, sub_sub_cancel_left]

/-! ## Rounding toward zero -/

theorem towardZero_natCast_add (n : ℕ) {part : ℚ} (hpart : 0 ≤ part) (hlt : part < 1) :
    towardZero (n + part) = n := by
  rw [towardZero, if_pos (by positivity), Int.floor_natCast_add, Int.floor_eq_zero_iff.mpr ⟨hpart, hlt⟩,
    add_zero]

theorem towardZero_neg (q : ℚ) : towardZero (-q) = -towardZero q := by
  rcases lt_trichotomy q 0 with hq | rfl | hq
  · rw [towardZero, towardZero, if_pos (by linarith), if_neg (by linarith), Int.floor_neg]
  · rfl
  · rw [towardZero, towardZero, if_neg (by linarith), if_pos hq.le, Int.ceil_neg]

theorem Literal.towardZero_size (l : Literal) : towardZero l.size = magnitude l.whole := by
  obtain ⟨part, hpart, hlt, hsize⟩ := l.size_eq
  rw [hsize, towardZero_natCast_add _ hpart hlt]

/-! ## Reading -/

theorem Literal.integerPart_text (l : Literal) :
    Numeral.integerPart l.text =
      if Numeral.digitLimit < l.whole.length then .error (.tooManyDigits l.whole.length)
      else .ok (towardZero l.value) := by
  cases hnegative : l.negative with
  | true =>
    rw [text, value, hnegative, if_pos rfl, if_pos rfl, towardZero_neg, l.towardZero_size,
      integerPart_minus_digits l.digits_whole l.fraction_pointed]
  | false =>
    rw [text, value, hnegative, if_neg Bool.false_ne_true, if_neg Bool.false_ne_true,
      l.towardZero_size, integerPart_digits l.digits_whole l.fraction_pointed]

/-- **A number is rounded toward zero.** The texts that are one number token are the literals. Where a
literal has not too many digits before the point, reading it gives its exact value rounded toward
zero, whatever zeros it starts with and however many digits stand behind the point. -/
theorem integerPart_eq_towardZero (t : Text) :
    (lexeme? t = some (.number, t) ↔ ∃ l : Literal, l.text = t) ∧
      ∀ l : Literal, l.text = t → l.whole.length ≤ Numeral.digitLimit →
        Numeral.integerPart t = .ok (towardZero l.value) := by
  refine ⟨lexeme?_eq_number_iff t, ?_⟩
  rintro l rfl hlength
  rw [l.integerPart_text, if_neg (Nat.not_lt.mpr hlength)]

/-- A negative number between two integers, with zeros in front. -/
def paddedLiteral : Literal :=
  ⟨true, ['0', '0', '1', '2'], ['7', '5'], ⟨by simp, by simp [isAsciiDigit]⟩,
    by simp [isAsciiDigit]⟩

/-- The integer next to it on the side of zero is -12, and the one below is -13. -/
theorem integerPart_paddedLiteral :
    paddedLiteral.text = "-0012.75".toList ∧ paddedLiteral.whole.length ≤ Numeral.digitLimit ∧
      paddedLiteral.value = -51 / 4 ∧ ⌊paddedLiteral.value⌋ = -13 ∧
      Numeral.integerPart "-0012.75".toList = .ok (-12) := by
  have htext : paddedLiteral.text = "-0012.75".toList := by decide
  have hlength : paddedLiteral.whole.length ≤ Numeral.digitLimit := by decide
  have hvalue : paddedLiteral.value = -51 / 4 := by
    simp only [paddedLiteral, Literal.value, Literal.size, placeValue, List.cons_append,
      List.nil_append, List.length_cons, List.length_nil, Char.reduceToNat]
    norm_num
  have hread := (integerPart_eq_towardZero "-0012.75".toList).2 paddedLiteral htext hlength
  have hround : towardZero (-51 / 4) = -12 := by norm_num [towardZero]
  rw [hvalue, hround] at hread
  refine ⟨htext, hlength, hvalue, ?_, hread⟩
  rw [hvalue]
  norm_num

end Interval
end Phrasebook
