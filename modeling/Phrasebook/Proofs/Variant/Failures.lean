import Phrasebook.Proofs.Numeral.Writing
import Phrasebook.Proofs.Variant.Shown

/-!
# Phrasebook.Proofs.Variant.Failures

When the choice of a variant fails. A segment whose front is malformed as an interval is a variant
without a guard (`ofSegment_of_malformed`). This leaves numbers with too many digits
(`overlong_of_parsePrefix?`), and only those in segments that the guards get to; and a count with too
many digits, where a log is told of it (`choose_eq_error_iff`).

`choose_fails_at_overlong_number` puts these together; `choose_overlong_count` is a message without a
number that is too long, and a count for which there is no choice all the same.
-/

namespace Phrasebook
namespace Variant

open Phrasebook.Interval Text

theorem ofSegment_of_malformed {segment : Text} {defect : Defect}
    (h : ofTokens (lex (trimLeft segment)) = .error (.malformed defect)) :
    ofSegment segment = .ok (.standard (stripLabel segment)) := by
  rw [ofSegment, parsePrefix?_eq, h]

theorem overlong_of_parsePrefix? {t : Text} {e : Numeral.IntegerError}
    (h : parsePrefix? t = .error e) : Overlong t e :=
  (overlong_of_ofTokens (parsePrefix?_eq_error_iff.mp h)).of_part (trimLeft_suffix t).isInfix

theorem separator_not_mem_digits {run : Text}
    (h : ∀ c ∈ run, Unicode.isAsciiDigit c = true) : separator ∉ run :=
  fun hmem => absurd (h separator hmem) (by decide)

theorem overlong_of_mem_segments {segment message : Text} {e : Numeral.IntegerError}
    (hsegment : segment ∈ segments message) (h : Overlong segment e) : Overlong message e := by
  obtain ⟨run, hrun, hdigits, hlen, he⟩ := h
  have hpart := isInfix_of_mem_segments (separator_not_mem_digits hdigits) hsegment hrun
  exact ⟨run, hpart, hdigits, hlen, he⟩

theorem decision?_eq_error_iff {count : Int} {segment : Text} {e : Numeral.IntegerError} :
    decision? count segment = some (.error e) ↔ parsePrefix? segment = .error e := by
  rw [decision?]
  cases parsePrefix? segment with
  | error e => simp
  | ok found => simp

/-- A log is told of the count: the guards pass over all segments, and its form has no variant. -/
def TellsCount (message : Text) (count : Int) (locale : Text) : Prop :=
  (∀ segment ∈ segments message, PassedOver count segment) ∧
    (standardSegments message).length ≤ Plural.position count locale

theorem choose_eq_error_iff {message : Text} {count : Int} {locale : Text}
    {e : Numeral.IntegerError} :
    choose message count locale = .error e ↔
      (∃ before segment after, segments message = before ++ segment :: after ∧
        (∀ earlier ∈ before, PassedOver count earlier) ∧ parsePrefix? segment = .error e) ∨
      TellsCount message count locale ∧ ¬ Numeral.Writable count ∧ e = .unwritable := by
  have hread : (segments message).findSome? (decision? count) = some (.error e) ↔
      ∃ before segment after, segments message = before ++ segment :: after ∧
        (∀ earlier ∈ before, PassedOver count earlier) ∧ parsePrefix? segment = .error e := by
    rw [List.findSome?_eq_some_iff]
    simp only [decision?_eq_none_iff, decision?_eq_error_iff, and_comm]
  have hpassed : (segments message).findSome? (decision? count) = none ↔
      ∀ segment ∈ segments message, PassedOver count segment := by
    simp only [List.findSome?_eq_none_iff, decision?_eq_none_iff]
  rw [← hread, TellsCount, ← hpassed, choose_eq, guarding_eq_decision]
  cases (segments message).findSome? (decision? count) with
  | some outcome => cases outcome <;> simp
  | none => simp [map_eq_error, tell_eq_error_iff, standardSegments]

/-- **Only numbers with too many digits make a choice fail.** A segment whose front is malformed as an
interval is a variant without a guard. A message without overlong runs of digits has a choice for every
count that is written. A choice fails exactly if an interval with an overlong number stands in front of
some segment and the guards pass over all segments before this one, and the error tells the number of
digits; or if the guards pass over all segments, the form of the count has no variant, and the count is
not written, so that a log cannot be told of it. -/
theorem choose_fails_at_overlong_number (message : Text) (count : Int) (locale : Text) :
    (∀ segment ∈ segments message, ∀ defect,
        ofTokens (lex (trimLeft segment)) = .error (.malformed defect) →
          ofSegment segment = .ok (.standard (stripLabel segment))) ∧
      (DigitRunsWithin Numeral.digitLimit message → Numeral.Writable count →
        ∃ selection, choose message count locale = .ok selection) ∧
      ∀ e, choose message count locale = .error e ↔
        (∃ before segment after, segments message = before ++ segment :: after ∧
          (∀ earlier ∈ before, PassedOver count earlier) ∧
            parsePrefix? segment = .error e ∧ Overlong segment e) ∨
        TellsCount message count locale ∧ ¬ Numeral.Writable count ∧ e = .unwritable := by
  have hoverlong : ∀ e, choose message count locale = .error e →
      (∃ before segment after, segments message = before ++ segment :: after ∧
        (∀ earlier ∈ before, PassedOver count earlier) ∧
          parsePrefix? segment = .error e ∧ Overlong segment e) ∨
      TellsCount message count locale ∧ ¬ Numeral.Writable count ∧ e = .unwritable := by
    intro e hchoice
    rcases choose_eq_error_iff.mp hchoice with ⟨before, segment, after, hsplit, hpassed, hread⟩ | htold
    · exact .inl ⟨before, segment, after, hsplit, hpassed, hread, overlong_of_parsePrefix? hread⟩
    · exact .inr htold
  refine ⟨fun segment _ defect => ofSegment_of_malformed, ?_, fun e => ⟨hoverlong e, ?_⟩⟩
  · intro hruns hcount
    cases hchoice : choose message count locale with
    | ok selection => exact ⟨selection, rfl⟩
    | error e =>
      rcases hoverlong e hchoice with ⟨before, segment, after, hsplit, _, _, hlong⟩ | ⟨_, hlong, _⟩
      · have hsegment : segment ∈ segments message := by simp [hsplit]
        exact absurd (overlong_of_mem_segments hsegment hlong) hruns.not_overlong
      · exact absurd hcount hlong
  · rintro (⟨before, segment, after, hsplit, hpassed, hread, _⟩ | htold)
    · exact choose_eq_error_iff.mpr (.inl ⟨before, segment, after, hsplit, hpassed, hread⟩)
    · exact choose_eq_error_iff.mpr (.inr htold)

def longNumber : Text := List.replicate (Numeral.digitLimit + 1) '1'

def longSet : Text := '{' :: (longNumber ++ '}' :: " all".toList)

def scoreMessage : Text := joinWith [separator] ["[0,5] few".toList, longSet]

def draftMessage : Text := "[draft|{1;2} two".toList

/-- The count decides whether the guards get to the long number. Brackets that open no interval do no
harm. -/
theorem choose_scoreMessage :
    choose scoreMessage 3 "en".toList = .ok (.guarded "few".toList) ∧
      choose scoreMessage 9 "en".toList = .error (.tooManyDigits longNumber.length) ∧
      DigitRunsWithin Numeral.digitLimit draftMessage ∧ Numeral.Writable 9 ∧
      ∃ selection, choose draftMessage 9 "en".toList = .ok selection := by
  have hdigits : Digits longNumber := by
    refine ⟨by simp [longNumber], fun c hc => ?_⟩
    rw [List.eq_of_mem_replicate hc]
    rfl
  have hlen : Numeral.digitLimit < longNumber.length := by simp [longNumber]
  have hsegments : segments scoreMessage = ["[0,5] few".toList, longSet] := by
    have hnumber : '|' ∉ longNumber := separator_not_mem_digits hdigits.2
    have hfew : separator ∉ "[0,5] few".toList := by decide
    have hlong : separator ∉ longSet := by
      simp [longSet, hnumber, separator]
    apply segments_joinWith
    · simp [longSet]
    · simp only [List.mem_cons, List.not_mem_nil, or_false, forall_eq_or_imp, forall_eq]
      exact ⟨hfew, hlong⟩
  have hpassed : PassedOver 9 "[0,5] few".toList := .inr ⟨_, _, rfl, rfl⟩
  have hread := parsePrefix?_overlongSet hdigits hlen " all".toList
  have hruns : DigitRunsWithin Numeral.digitLimit draftMessage := digitRunsWithin_of_length (by decide)
  have hcount : Numeral.Writable 9 := by decide
  refine ⟨?_, ?_, hruns, hcount,
    (choose_fails_at_overlong_number draftMessage 9 "en".toList).2.1 hruns hcount⟩
  · rw [choose, guarding_eq_decision, hsegments]
    rfl
  refine ((choose_fails_at_overlong_number scoreMessage 9 "en".toList).2.2 _).mpr ?_
  exact .inl ⟨["[0,5] few".toList], longSet, [], hsegments, by simpa using hpassed, hread,
    overlong_of_parsePrefix? hread⟩

def soleGuard : Text := "{0} none".toList

/-- No number in the message is too long, and there is no choice. -/
theorem choose_overlong_count :
    DigitRunsWithin Numeral.digitLimit soleGuard ∧
      choose soleGuard Numeral.overlongPower "en".toList = .error .unwritable := by
  have hdecision : guarding Numeral.overlongPower (segments soleGuard) = .ok (.standard []) := by
    decide +kernel
  refine ⟨digitRunsWithin_of_length (by decide), ?_⟩
  rw [choose_eq, hdecision]
  refine map_eq_error.mpr (tell_eq_error_iff.mpr ⟨Nat.zero_le _, ?_, rfl⟩)
  exact Numeral.not_writable_overlongPower

end Variant
end Phrasebook
