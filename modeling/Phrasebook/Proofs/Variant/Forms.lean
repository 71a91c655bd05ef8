import Phrasebook.Proofs.Variant.Writing
import Phrasebook.Variant.Selection

/-!
# Phrasebook.Proofs.Variant.Forms

What the locale has to do with the choice of a variant: only the plural form of the count.

* `formText?`: the variant of a form, or the first one where the form has none.
* `formText`: the text that is shown for a form, unless a log has to be told of the count and cannot
  write it.
* `textAt`: the text for a count and a plural form, whatever locale the form is of.
* `choose_text`: the chosen text is that of the locale's plural form.
* `textAt_of_single`: for a message without variants the form makes no difference to the text, only to
  what a log is told.
-/

namespace Phrasebook
namespace Variant

def formText? (variants : List Text) (position : Nat) : Option Text :=
  variants[position]?.or variants.head?

/-- What comes of telling a log, which is told of the count where a form has no variant. -/
def tell (count : Int) (variants : List Text) (position : Nat) : Except Numeral.IntegerError Unit :=
  if position < variants.length then .ok () else (Numeral.writeInteger count).map fun _ => ()

/-- The text of a form among the variants without a guard, which is the message itself if there are
none. -/
def formText (message : Text) (count : Int) (variants : List Text) (position : Nat) :
    Except Numeral.IntegerError Text :=
  (tell count variants position).map fun _ =>
    (formText? variants position).getD (Text.trim message)

/-- The text that the guards of a message leave for a plural form. -/
def textAt (message : Text) (count : Int) (position : Nat) : Except Numeral.IntegerError Text :=
  match guarding count (segments message) with
  | .error e => .error e
  | .ok (.held text) => .ok text
  | .ok (.standard variants) => formText message count variants position

theorem formText?_cons (first : Text) (rest : List Text) (position : Nat) :
    formText? (first :: rest) position = some ((first :: rest)[position]?.getD first) := by
  rw [formText?]
  cases (first :: rest)[position]? with
  | some text => rfl
  | none => rfl

theorem text_standardSelection (message : Text) (count : Int) (locale : Text)
    (variants : List Text) :
    (standardSelection message count locale variants).text =
      (formText? variants (Plural.position count locale)).getD (Text.trim message) := by
  cases variants with
  | nil => rfl
  | cons first rest =>
    rw [standardSelection, formText?_cons, Option.getD_some]
    cases (first :: rest)[Plural.position count locale]? with
    | some text => rfl
    | none => rfl

theorem writeAll_events_standardSelection (message : Text) (count : Int) (locale : Text)
    (variants : List Text) :
    Log.writeAll ((standardSelection message count locale variants).events count locale) =
      tell count variants (Plural.position count locale) := by
  cases variants with
  | nil => exact Log.writeAll_singleton _
  | cons first rest =>
    rw [standardSelection, tell]
    cases hform : (first :: rest)[Plural.position count locale]? with
    | some text =>
      rw [if_pos (List.getElem?_eq_some_iff.mp hform).1]
      rfl
    | none =>
      rw [if_neg (Nat.not_lt.mpr (List.getElem?_eq_none_iff.mp hform))]
      exact Log.writeAll_singleton _

theorem choose_eq (message : Text) (count : Int) (locale : Text) :
    choose message count locale =
      match guarding count (segments message) with
      | .error e => .error e
      | .ok (.held text) => .ok (.guarded text)
      | .ok (.standard variants) =>
        (tell count variants (Plural.position count locale)).map fun _ =>
          standardSelection message count locale variants := by
  rw [choose]
  cases guarding count (segments message) with
  | error e => rfl
  | ok decision =>
    cases decision with
    | held text => rfl
    | standard variants => simp only [writeAll_events_standardSelection]

theorem tell_eq_error_iff {count : Int} {variants : List Text} {position : Nat}
    {e : Numeral.IntegerError} :
    tell count variants position = .error e ↔
      variants.length ≤ position ∧ ¬ Numeral.Writable count ∧ e = .unwritable := by
  rw [tell]
  by_cases hform : position < variants.length
  · simp [hform, Nat.not_le.mpr hform]
  · by_cases hcount : Numeral.Writable count <;>
      simp [hform, hcount, Except.map, Nat.not_lt.mp hform, eq_comm]

theorem choose_text (message : Text) (count : Int) (locale : Text) :
    (choose message count locale).map Selection.text =
      textAt message count (Plural.position count locale) := by
  rw [choose_eq, textAt]
  cases guarding count (segments message) with
  | error e => rfl
  | ok decision =>
    cases decision with
    | held text => rfl
    | standard variants =>
      simp only [formText, ← text_standardSelection]
      cases tell count variants (Plural.position count locale) <;> rfl

/-- A message without variants is its own only variant, and stands in for every form. -/
theorem textAt_of_single {message : Text} (hseparator : separator ∉ message)
    (hguard : Interval.parsePrefix? message = .ok none) (count : Int) (position : Nat) :
    textAt message count position =
      if position = 0 then .ok (stripLabel message)
      else (Numeral.writeInteger count).map fun _ => stripLabel message := by
  have hdecision : guarding count [message] = .ok (.standard [stripLabel message]) := by
    simp [guarding, ofSegment, hguard]
  rw [textAt, segments_of_not_mem hseparator, hdecision]
  cases position with
  | zero => rfl
  | succ position =>
    show formText message count [stripLabel message] (position + 1) = _
    rw [formText, tell, if_neg (by simp), if_neg (Nat.succ_ne_zero position)]
    cases Numeral.writeInteger count <;> rfl

/-- Two forms lead to the same under `f` just when the guards decide, or leave variants of which both
forms lead to the same. -/
theorem textAt_bind_eq_iff {α : Type} (f : Text → Except Numeral.IntegerError α) (message : Text)
    (count : Int) (one other : Nat) :
    (textAt message count one >>= f) = (textAt message count other >>= f) ↔
      ∀ variants, guarding count (segments message) = .ok (.standard variants) →
        (formText message count variants one >>= f) =
          (formText message count variants other >>= f) := by
  rw [textAt, textAt]
  cases guarding count (segments message) with
  | error e =>
    constructor
    · intro _ variants h; cases h
    · intro _; rfl
  | ok decision =>
    cases decision with
    | held text =>
      constructor
      · intro _ variants h; cases h
      · intro _; rfl
    | standard variants =>
      constructor
      · intro hsame variants h
        cases h
        exact hsame
      · intro h
        exact h variants rfl

end Variant
end Phrasebook
