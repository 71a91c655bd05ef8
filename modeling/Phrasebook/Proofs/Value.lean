import Phrasebook.Proofs.Outcome
import Phrasebook.Value

/-!
# Phrasebook.Proofs.Value

Values that have a text, and values that have none.

* `error_of_written`: there is a single reason for a value to have no text, an integer with too many
  digits somewhere in it.
* `toText_eq`: so a value is told by whether it has a text, and by `shown`, the text that it has.
-/

namespace Phrasebook
namespace Value

open Numeral

mutual

theorem error_of_written {v : Value} {e : IntegerError} (h : written v = .error e) :
    e = .unwritable := by
  cases v with
  | integer n =>
    rw [written, writeInteger] at h
    split at h
    · cases h
    · exact (Except.error.inj h).symm
  | list items =>
    rw [written, map_eq_error] at h
    exact error_of_writtenItems h
  | mapping entries =>
    rw [written, map_eq_error] at h
    exact error_of_writtenEntries h
  | _ =>
    rw [written] at h
    cases h

theorem error_of_writtenItems {items : List Value} {e : IntegerError}
    (h : writtenItems items = .error e) : e = .unwritable := by
  match items with
  | [] =>
    rw [writtenItems] at h
    cases h
  | v :: rest =>
    rw [writtenItems] at h
    split at h
    · rename_i hv
      cases h
      exact error_of_written hv
    · rw [map_eq_error] at h
      exact error_of_writtenItems h

theorem error_of_writtenEntries {entries : List (MapKey × Value)} {e : IntegerError}
    (h : writtenEntries entries = .error e) : e = .unwritable := by
  match entries with
  | [] =>
    rw [writtenEntries] at h
    cases h
  | (key, v) :: rest =>
    rw [writtenEntries] at h
    split at h
    · rename_i hv
      cases h
      exact error_of_written hv
    · rw [map_eq_error] at h
      exact error_of_writtenEntries h

end

theorem error_of_toText {v : Value} {e : IntegerError} (h : v.toText = .error e) :
    e = .unwritable := by
  cases v with
  | text t => cases h
  | _ => exact error_of_written h

/-- The value has a text. -/
def HasText (v : Value) : Prop :=
  v.toText.isOk = true

instance (v : Value) : Decidable v.HasText :=
  inferInstanceAs (Decidable (_ = _))

/-- The text of a value, empty if it has none. -/
def shown (v : Value) : Text :=
  v.toText.toOption.getD []

theorem toText_eq (v : Value) :
    v.toText = if v.HasText then .ok v.shown else .error .unwritable := by
  cases h : v.toText with
  | error e => simp [HasText, h, error_of_toText h, Except.isOk, Except.toBool]
  | ok t => simp [HasText, shown, h, Except.isOk, Except.toBool, Except.toOption]

theorem shown_of_not_hasText {v : Value} (h : ¬ v.HasText) : v.shown = [] := by
  rw [shown, toText_eq, if_neg h]
  rfl

theorem toText_eq_ok_iff {v : Value} {t : Text} : v.toText = .ok t ↔ v.HasText ∧ v.shown = t := by
  rw [toText_eq]
  split
  · rename_i h
    simp [h]
  · rename_i h
    simp [h]

@[simp]
theorem shown_text (t : Text) : shown (.text t) = t :=
  rfl

@[simp]
theorem hasText_text (t : Text) : HasText (.text t) :=
  rfl

@[simp]
theorem hasText_integer_iff {n : Int} : HasText (.integer n) ↔ Writable n := by
  rw [HasText, toText_integer, writeInteger]
  split
  · rename_i h
    exact iff_of_true rfl h
  · rename_i h
    exact iff_of_false nofun h

theorem shown_integer {n : Int} (h : Writable n) : shown (.integer n) = decimal n := by
  rw [shown, toText_integer, writeInteger_of_writable h]
  rfl

end Value
end Phrasebook
