import Phrasebook.Unicode.Blank
import Phrasebook.Unicode.Digit
import Phrasebook.Text.Trim

/-!
# Phrasebook.Numeral.Digits

What all numerals have in common: a sign, runs of decimal digits, and blanks around the whole.

* `digitRun?` reads the digits at the front of a text. Single low lines may stand between digits.
* `Numeral.ofDigits` is the number that a list of digits denotes.
* `splitSign`, `trimPadding` take off the sign and the surrounding blanks.
* `decimal` writes an integer.
-/

namespace Phrasebook
namespace Numeral

open Unicode

/-- The number written with the given digits, the first being the most significant. -/
def ofDigits (digits : List Nat) : Nat :=
  digits.foldl (fun n d => 10 * n + d) 0

theorem foldl_digits (digits : List Nat) (n : Nat) :
    digits.foldl (fun n d => 10 * n + d) n = n * Nat.pow 10 digits.length + ofDigits digits := by
  induction digits generalizing n with
  | nil => simp [ofDigits]
  | cons d rest ih =>
    have hp : Nat.pow 10 (rest.length + 1) = Nat.pow 10 rest.length * 10 := rfl
    simp only [ofDigits, List.foldl_cons, List.length_cons, Nat.mul_zero, Nat.zero_add] at ih ⊢
    rw [ih, ih d, hp, Nat.add_mul, Nat.add_assoc, Nat.mul_comm 10 n, Nat.mul_assoc,
      Nat.mul_comm 10]

theorem ofDigits_cons (d : Nat) (rest : List Nat) :
    ofDigits (d :: rest) = d * Nat.pow 10 rest.length + ofDigits rest := by
  have h := foldl_digits rest d
  simpa [ofDigits] using h

/-- The digits that follow a digit, and the rest of the text. There is no result if a low line is
not followed by a digit. -/
def moreDigits? : Text → Option (List Nat × Text)
  | [] => some ([], [])
  | '_' :: c :: rest =>
    match decimalValue? c with
    | some d => (moreDigits? rest).map fun (digits, after) => (d :: digits, after)
    | none => none
  | ['_'] => none
  | c :: rest =>
    match decimalValue? c with
    | some d => (moreDigits? rest).map fun (digits, after) => (d :: digits, after)
    | none => some ([], c :: rest)

/-- The digits at the front of a text, possibly none, and the rest of the text. -/
def digitRun? : Text → Option (List Nat × Text)
  | [] => some ([], [])
  | c :: rest =>
    match decimalValue? c with
    | some d => (moreDigits? rest).map fun (digits, after) => (d :: digits, after)
    | none => some ([], c :: rest)

/-- Blanks that may surround a numeral: white space without the information separators. -/
def isPadding (c : Char) : Bool :=
  isBlank c && !(0x1C ≤ c.toNat && c.toNat ≤ 0x1F)

/-- The text without the padding at its ends. -/
def trimPadding (t : Text) : Text :=
  ((t.dropWhile isPadding).reverse.dropWhile isPadding).reverse

/-- Whether a text starts with a minus sign, and the text after its sign, if it has one. -/
def splitSign : Text → Bool × Text
  | '-' :: rest => (true, rest)
  | '+' :: rest => (false, rest)
  | t => (false, t)

/-- An integer in decimal digits, with a minus sign if it is negative. -/
def decimal : Int → Text
  | .ofNat n => Nat.toDigits 10 n
  | .negSucc n => '-' :: Nat.toDigits 10 (n + 1)

end Numeral
end Phrasebook
