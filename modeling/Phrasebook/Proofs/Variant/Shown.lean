import Mathlib.Control.Monad.Basic
import Phrasebook.Proofs.Interval.Prefix
import Phrasebook.Proofs.Outcome
import Phrasebook.Proofs.Variant.Forms
import Phrasebook.Proofs.Variant.Guards

/-!
# Phrasebook.Proofs.Variant.Shown

What a choice shows: never more than a part of one segment, unless nothing in the message is left to
show.

* `PassedOver`: the segment decides nothing.
* `Shows`: the text that a segment shows if it is chosen. It is trimmed and a part of the segment.

`text_of_choose` says where the text of a choice comes from.
-/

namespace Phrasebook
namespace Variant

open Text

section Segment

variable {count : Int} {segment text : Text}

/-! ## Segments that decide nothing -/

/-- The segment starts with no interval, or with one that does not contain the count. -/
def PassedOver (count : Int) (segment : Text) : Prop :=
  Interval.parsePrefix? segment = .ok none ∨
    ∃ interval rest, Interval.parsePrefix? segment = .ok (some (interval, rest)) ∧
      interval.contains count = false

theorem decision?_eq_none_iff : decision? count segment = none ↔ PassedOver count segment := by
  rw [decision?, PassedOver, heldText?]
  cases Interval.parsePrefix? segment with
  | error e => simp
  | ok found =>
    cases found with
    | none => simp
    | some parsed =>
      obtain ⟨interval, rest⟩ := parsed
      simp

theorem PassedOver.reads_none (h : PassedOver count segment)
    (hguarded : isGuarded segment = false) : Interval.parsePrefix? segment = .ok none := by
  rcases h with hnone | ⟨interval, rest, hfound, _⟩
  · exact hnone
  · simp [isGuarded, hfound] at hguarded

theorem PassedOver.excludes (h : PassedOver count segment) (hguarded : isGuarded segment = true) :
    ∃ interval rest, Interval.parsePrefix? segment = .ok (some (interval, rest)) ∧
      interval.contains count = false := by
  rcases h with hnone | hfound
  · simp [isGuarded, hnone] at hguarded
  · exact hfound

/-! ## What a segment shows -/

/-- What a segment shows for a count: without a guard, the segment less its label, and behind a guard
that contains the count, the rest of the segment. -/
inductive Shows (count : Int) (segment : Text) : Text → Prop where
  | standard : Interval.parsePrefix? segment = .ok none → Shows count segment (stripLabel segment)
  | guarded {interval : Interval} {rest : Text} :
      Interval.parsePrefix? segment = .ok (some (interval, rest)) →
      interval.contains count = true → Shows count segment (trim rest)

theorem shows_of_decision? (h : decision? count segment = some (.ok text)) :
    Shows count segment text := by
  rw [decision?, heldText?] at h
  cases hfound : Interval.parsePrefix? segment with
  | error e => simp [hfound] at h
  | ok found =>
    cases found with
    | none => simp [hfound] at h
    | some parsed =>
      obtain ⟨interval, rest⟩ := parsed
      simp only [hfound] at h
      by_cases hcount : interval.contains count = true
      · simp only [hcount, if_true, Option.map_some, Option.some.injEq, Except.ok.injEq] at h
        exact h ▸ .guarded hfound hcount
      · simp [hcount] at h

theorem stripLabel_suffix (segment : Text) : stripLabel segment <:+ trim segment := by
  rw [stripLabel]
  split
  · rename_i rest _ hdrop
    have hrest : rest <:+ (trim segment).dropWhile Unicode.isWordChar := by
      rw [hdrop]
      exact List.suffix_cons ':' rest
    exact ((trimLeft_suffix rest).trans hrest).trans (List.dropWhile_suffix _)
  · exact List.suffix_refl _

theorem trimmed_stripLabel (segment : Text) : Trimmed (stripLabel segment) := by
  refine (trimmed_trim segment).of_suffix (stripLabel_suffix segment) ?_
  rw [stripLabel]
  split
  · exact fun c => head?_trimLeft
  · exact (trimmed_trim segment).1

theorem Shows.trimmed (h : Shows count segment text) : Trimmed text := by
  cases h with
  | standard => exact trimmed_stripLabel segment
  | guarded => exact trimmed_trim _

theorem Shows.isInfix (h : Shows count segment text) : text <:+: segment := by
  cases h with
  | standard => exact (stripLabel_suffix segment).isInfix.trans (trim_isInfix segment)
  | @guarded interval rest hfound _ =>
    obtain ⟨head, hstarts⟩ := Interval.exists_startsWith hfound
    have hrest : rest <:+ trimLeft segment := ⟨head, hstarts.split.symm⟩
    exact (trim_isInfix rest).trans (hrest.trans (trimLeft_suffix segment)).isInfix

end Segment

/-! ## What a message shows -/

theorem mem_of_formText? {variants : List Text} {position : Nat} {text : Text}
    (h : formText? variants position = some text) : text ∈ variants := by
  rw [formText?] at h
  cases hform : variants[position]? with
  | some other =>
    rw [hform, Option.some_or] at h
    cases h
    exact List.mem_of_getElem? hform
  | none =>
    rw [hform, Option.none_or] at h
    exact List.mem_of_head? h

theorem eq_nil_of_formText? {variants : List Text} {position : Nat}
    (h : formText? variants position = none) : variants = [] := by
  cases variants with
  | nil => rfl
  | cons first rest =>
    rw [formText?_cons] at h
    cases h

/-- Where the guards pass over all segments, the text comes from one without a guard, if there is
one. -/
theorem shows_standardSelection {message : Text} {count : Int} (locale : Text)
    (hpassed : ∀ segment ∈ segments message, PassedOver count segment) :
    let text :=
      (standardSelection message count locale ((standardSegments message).map stripLabel)).text
    (∃ segment ∈ segments message, Shows count segment text) ∨
      (∀ segment ∈ segments message, isGuarded segment = true) ∧ text = trim message := by
  rw [text_standardSelection]
  cases hform : formText? _ (Plural.position count locale) with
  | some text =>
    obtain ⟨segment, hfilter, rfl⟩ := List.mem_map.mp (mem_of_formText? hform)
    obtain ⟨hsegment, hguarded⟩ := List.mem_filter.mp hfilter
    have hnone := (hpassed segment hsegment).reads_none (by simpa using hguarded)
    exact .inl ⟨segment, hsegment, .standard hnone⟩
  | none =>
    have hguarded : ∀ segment ∈ segments message, isGuarded segment = true := by
      simpa [standardSegments, List.filter_eq_nil_iff] using eq_nil_of_formText? hform
    exact .inr ⟨hguarded, rfl⟩

/-- **A choice shows a part of one segment.** The text of a choice has no blank at either end. It is
what one of the segments shows, and a part of this segment; or else all segments are guarded, none of
the guards contains the count, and the text is the trimmed message. -/
theorem text_of_choose {message : Text} {count : Int} {locale : Text} {selection : Selection}
    (h : choose message count locale = .ok selection) :
    Trimmed selection.text ∧
      ((∃ segment ∈ segments message, Shows count segment selection.text ∧
          selection.text <:+: segment) ∨
        (∀ segment ∈ segments message, ∃ interval rest,
            Interval.parsePrefix? segment = .ok (some (interval, rest)) ∧
              interval.contains count = false) ∧
          selection.text = trim message ∧ selection.text <:+: message) := by
  rw [choose, guarding_eq_decision] at h
  cases hdecision : (segments message).findSome? (decision? count) with
  | some outcome =>
    rw [hdecision] at h
    cases outcome with
    | error e => cases h
    | ok text =>
      cases h
      obtain ⟨segment, hsegment, hheld⟩ := List.exists_of_findSome?_eq_some hdecision
      have hshows := shows_of_decision? hheld
      exact ⟨hshows.trimmed, .inl ⟨segment, hsegment, hshows, hshows.isInfix⟩⟩
  | none =>
    rw [hdecision] at h
    obtain ⟨_, _, rfl⟩ := map_eq_ok.mp h
    have hpassed : ∀ segment ∈ segments message, PassedOver count segment := fun segment hsegment =>
      decision?_eq_none_iff.mp (List.findSome?_eq_none_iff.mp hdecision segment hsegment)
    rcases shows_standardSelection locale hpassed with ⟨segment, hsegment, hshows⟩ | ⟨hguarded, htext⟩
    · exact ⟨hshows.trimmed, .inl ⟨segment, hsegment, hshows, hshows.isInfix⟩⟩
    · have htrimmed := trimmed_trim message
      have hpart := trim_isInfix message
      rw [← htext] at htrimmed hpart
      refine ⟨htrimmed, .inr ⟨fun segment hsegment => ?_, htext, hpart⟩⟩
      exact (hpassed segment hsegment).excludes (hguarded segment hsegment)

def labelledMessage : Text := "{0} none | one: an apple|other:  :count apples\u2003".toList

/-- The label goes, and so does the em space at the end. -/
theorem text_of_choose_labelled :
    choose labelledMessage 3 "en".toList = .ok (.standard ":count apples".toList) ∧
      Trimmed ":count apples".toList ∧
      ∃ segment ∈ segments labelledMessage, Shows 3 segment ":count apples".toList ∧
        ":count apples".toList <:+: segment := by
  have hchoice : choose labelledMessage 3 "en".toList = .ok (.standard ":count apples".toList) := by
    decide +kernel
  obtain ⟨htrimmed, hsegment | ⟨_, hwhole, _⟩⟩ := text_of_choose hchoice
  · exact ⟨hchoice, htrimmed, hsegment⟩
  · exact absurd hwhole (by decide)

end Variant
end Phrasebook
