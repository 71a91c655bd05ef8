import Phrasebook.Numeral.Integer

/-!
# Phrasebook.Proofs.Numeral.Writing

How the powers of ten are written.

* `toDigits_pow_ten`: there are numbers with runs of one digit as long as one likes.
* `writable_pow_ten_iff`: a power of ten has one digit more than its exponent.
* `overlongPower`: one that is not written.
-/

namespace Phrasebook
namespace Numeral

theorem toDigits_pow_ten (k : Nat) :
    Nat.toDigits 10 (Nat.pow 10 k) = '1' :: List.replicate k '0' := by
  induction k with
  | zero => rfl
  | succ k ih =>
    calc
      Nat.toDigits 10 (Nat.pow 10 (k + 1)) = Nat.toDigits 10 (10 * Nat.pow 10 k + 0) := by
        rw [Nat.add_zero, Nat.mul_comm]
        rfl
      _ = Nat.toDigits 10 (Nat.pow 10 k) ++ Nat.toDigits 10 0 :=
        (Nat.toDigits_append_toDigits (by decide) (Nat.pow_pos (by decide)) (by decide)).symm
      _ = '1' :: List.replicate (k + 1) '0' := by
        rw [ih, List.replicate_succ']
        rfl

theorem decimal_pow_ten (k : Nat) :
    decimal (Nat.pow 10 k : Nat) = '1' :: List.replicate k '0' :=
  toDigits_pow_ten k

theorem writable_pow_ten_iff {k : Nat} : Writable (Nat.pow 10 k : Nat) ↔ k < digitLimit := by
  rw [Writable, Int.natAbs_natCast, toDigits_pow_ten, List.length_cons, List.length_replicate]
  exact Nat.succ_le_iff

/-- A power of ten with one digit too many. -/
def overlongPower : Int := (Nat.pow 10 digitLimit : Nat)

theorem not_writable_overlongPower : ¬ Writable overlongPower :=
  fun h => Nat.lt_irrefl digitLimit (writable_pow_ten_iff.mp h)

end Numeral
end Phrasebook
