import Phrasebook.Variant.Selection

/-!
# Phrasebook.Proofs.Variant.Guards

What the guards of a message decide, first told from what each segment decides by itself, and then
from the guarded and the other segments apart. Each of the two keeps its order in the message; how they
are mixed there has no influence.

* `guarding_eq_decision`: the first decision of a segment is that of the message.
* `guarding_eq_verdict`: the decision is the verdict on the two lists.
* `choose_eq_of_same_rules`: messages with the same lists are chosen from alike.
-/

namespace Phrasebook
namespace Variant

/-- Whether a segment starts with an interval. -/
def isGuarded (segment : Text) : Bool :=
  match Interval.parsePrefix? segment with
  | .ok (some _) => true
  | _ => false

/-- What a guarded segment shows if its interval contains the count. -/
def heldText? (count : Int) (segment : Text) : Option Text :=
  match Interval.parsePrefix? segment with
  | .ok (some (interval, rest)) => if interval.contains count then some (Text.trim rest) else none
  | _ => none

/-! ## The first decision -/

/-- What a segment decides by itself: the text that its guard holds for the count, or the error of
reading the guard. -/
def decision? (count : Int) (segment : Text) : Option (Except Numeral.IntegerError Text) :=
  match Interval.parsePrefix? segment with
  | .error e => some (.error e)
  | .ok _ => (heldText? count segment).map .ok

/-- The first decision is that of the message, and without one all the segments that have no guard are
left; by induction on the segments. -/
theorem guarding_eq_decision (count : Int) (segments : List Text) :
    guarding count segments =
      match segments.findSome? (decision? count) with
      | some (.error e) => .error e
      | some (.ok text) => .ok (.held text)
      | none => .ok (.standard ((segments.filter fun segment => !isGuarded segment).map stripLabel)) := by
  induction segments with
  | nil => rfl
  | cons segment rest ih =>
    rw [guarding, ofSegment, List.findSome?_cons, List.filter_cons, decision?, heldText?, isGuarded]
    cases Interval.parsePrefix? segment with
    | error e => rfl
    | ok found =>
      cases found with
      | none =>
        simp only [ih, Option.map_none, Bool.not_false, if_true, List.map_cons]
        cases rest.findSome? (decision? count) with
        | none => rfl
        | some outcome => cases outcome <;> rfl
      | some parsed =>
        obtain ⟨interval, text⟩ := parsed
        cases hcount : interval.contains count with
        | true => simp [hcount]
        | false => simp [hcount, ih]

/-! ## Guarded and other segments apart -/

/-- Looking for an interval fails at none of the segments. -/
def Readable (segments : List Text) : Prop :=
  ∀ segment ∈ segments, (Interval.parsePrefix? segment).isOk = true

def guardedSegments (message : Text) : List Text :=
  (segments message).filter isGuarded

def standardSegments (message : Text) : List Text :=
  (segments message).filter fun segment => !isGuarded segment

/-- The decision, given the guarded segments and the others. -/
def verdict (count : Int) (guarded standard : List Text) : Guarding :=
  match guarded.findSome? (heldText? count) with
  | some text => .held text
  | none => .standard (standard.map stripLabel)

theorem decision?_of_isOk {count : Int} {segment : Text}
    (h : (Interval.parsePrefix? segment).isOk = true) :
    decision? count segment = (heldText? count segment).map .ok := by
  rw [decision?]
  cases hfound : Interval.parsePrefix? segment with
  | error e => rw [hfound] at h; cases h
  | ok found => rfl

theorem heldText?_eq_none {count : Int} {segment : Text} (h : isGuarded segment = false) :
    heldText? count segment = none := by
  cases hfound : Interval.parsePrefix? segment with
  | error e => simp [heldText?, hfound]
  | ok found =>
    cases found with
    | none => simp [heldText?, hfound]
    | some parsed => simp [isGuarded, hfound] at h

/-- Of segments that can be read, only the guarded ones decide. -/
theorem findSome?_decision? (count : Int) {segments : List Text} (h : Readable segments) :
    segments.findSome? (decision? count) =
      ((segments.filter isGuarded).findSome? (heldText? count)).map .ok := by
  induction segments with
  | nil => rfl
  | cons segment rest ih =>
    have ih := ih fun s hs => h s (List.mem_cons_of_mem _ hs)
    rw [List.findSome?_cons, decision?_of_isOk (h segment (by simp)), List.filter_cons]
    cases hguarded : isGuarded segment with
    | true =>
      rw [if_pos rfl, List.findSome?_cons]
      cases heldText? count segment with
      | none => exact ih
      | some text => rfl
    | false =>
      rw [heldText?_eq_none hguarded]
      exact ih

/-- Each segment goes to one of the two lists, and the lists tell the decision. -/
theorem guarding_eq_verdict (count : Int) {segments : List Text} (h : Readable segments) :
    guarding count segments =
      .ok (verdict count (segments.filter isGuarded)
        (segments.filter fun segment => !isGuarded segment)) := by
  rw [guarding_eq_decision, findSome?_decision? count h, verdict]
  cases (segments.filter isGuarded).findSome? (heldText? count) with
  | none => rfl
  | some text => rfl

/-- Where standard variants are left, the text of the message itself does not count. -/
theorem standardSelection_eq (message other : Text) (count : Int) (locale : Text)
    {variants : List Text} (h : variants ≠ []) :
    standardSelection message count locale variants =
      standardSelection other count locale variants := by
  cases variants with
  | nil => exact absurd rfl h
  | cons first rest => rfl

/-- **The order among guarded and among standard segments is all that counts.** Two readable
messages with the same guarded segments and the same standard segments, at least one of these, give
the same choice for every count and locale. -/
theorem choose_eq_of_same_rules {message other : Text} (hmessage : Readable (segments message))
    (hother : Readable (segments other))
    (hguarded : guardedSegments message = guardedSegments other)
    (hstandard : standardSegments message = standardSegments other)
    (hne : standardSegments message ≠ []) (count : Int) (locale : Text) :
    choose message count locale = choose other count locale := by
  have hsame : guarding count (segments message) = guarding count (segments other) := by
    rw [guarding_eq_verdict count hmessage, guarding_eq_verdict count hother]
    rw [guardedSegments, guardedSegments] at hguarded
    rw [standardSegments, standardSegments] at hstandard
    rw [hguarded, hstandard]
  rw [choose, choose, ← hsame]
  cases hdecision : guarding count (segments message) with
  | error e => rfl
  | ok decision =>
    cases decision with
    | held text => rfl
    | standard variants =>
      have hvariants : variants ≠ [] := by
        rw [guarding_eq_verdict count hmessage, Except.ok.injEq, verdict] at hdecision
        split at hdecision
        · cases hdecision
        · cases hdecision
          simpa [standardSegments] using hne
      simp only [standardSelection_eq message other count locale hvariants]

def guardsFirst : Text := "{0} none|[5,9] some|one: apple|other: apples".toList

def guardsBetween : Text := "one: apple|{0} none|other: apples|[5,9] some".toList

/-- A guard behind the standard segments holds all the same. -/
theorem choose_guardsFirst :
    Readable (segments guardsFirst) ∧ Readable (segments guardsBetween) ∧
      guardedSegments guardsFirst = guardedSegments guardsBetween ∧
      standardSegments guardsFirst = standardSegments guardsBetween ∧
      standardSegments guardsFirst ≠ [] ∧
      choose guardsFirst 7 "en".toList = choose guardsBetween 7 "en".toList ∧
      choose guardsBetween 7 "en".toList = .ok (.guarded "some".toList) := by
  have hfirst : Readable (segments guardsFirst) := by
    unfold Readable
    decide
  have hbetween : Readable (segments guardsBetween) := by
    unfold Readable
    decide
  have hguarded : guardedSegments guardsFirst = guardedSegments guardsBetween := by
    decide
  have hstandard : standardSegments guardsFirst = standardSegments guardsBetween := by
    decide
  have hne : standardSegments guardsFirst ≠ [] := by decide
  exact ⟨hfirst, hbetween, hguarded, hstandard, hne,
    choose_eq_of_same_rules hfirst hbetween hguarded hstandard hne 7 "en".toList, rfl⟩

end Variant
end Phrasebook
