import Mathlib.Data.List.TakeWhile
import Phrasebook.Locale.Tag
import Phrasebook.Proofs.Text.Blanks
import Phrasebook.Proofs.Text.LowerCase

/-!
# Phrasebook.Proofs.Locale.NormalForm

What is left to do for a tag that is normalized already. Blanks are taken off before the language is
cut out, so a blank in front of the separator stays, and a second normalization takes it off.

* `normalize_normalize_eq_trim`: that is all that a second normalization does.
* `trimmed_language_iff`: the tags in which a blank stands there.

`normalize_normalize_iff` says for which tags the code is in normal form, and
`normalize_gapBeforeSeparator` is a tag for which it is not.
-/

namespace Phrasebook
namespace Locale

open Unicode Text

/-- White space stands between the language of a tag and the separator that ends it. -/
def GapBeforeSeparator (tag : Text) : Prop :=
  ∃ language gap separator rest, tag = language ++ gap :: separator :: rest ∧
    (∀ c ∈ language, isTagSeparator c = false) ∧ ¬ AllBlank language ∧
    isBlank gap = true ∧ isTagSeparator separator = true

/-! ## Separators -/

def tagSeparatorRanges : List (Nat × Nat) :=
  [(0x2D, 0x2E), (0x40, 0x40), (0x5F, 0x5F)]

theorem isTagSeparator_eq_inRanges (c : Char) :
    isTagSeparator c = inRanges tagSeparatorRanges c := by
  rw [Bool.eq_iff_iff]
  simp only [isTagSeparator, inRanges, tagSeparatorRanges, List.any_cons, List.any_nil,
    Bool.or_eq_true, Bool.or_false, Bool.and_eq_true, decide_eq_true_eq, ← Char.toNat_inj,
    Char.reduceToNat]
  omega

theorem caseless_tagSeparatorRanges : Caseless tagSeparatorRanges := by
  decide +kernel

theorem isTagSeparator_of_isBlank {c : Char} (h : isBlank c = true) :
    isTagSeparator c = false := by
  rw [Bool.eq_false_iff]
  intro hc
  simp only [isTagSeparator, Bool.or_eq_true, decide_eq_true_eq] at hc
  rcases hc with ((rfl | rfl) | rfl) | rfl <;> exact absurd h (by decide)

theorem isBlank_of_isTagSeparator {c : Char} (h : isTagSeparator c = true) : isBlank c = false := by
  rw [Bool.eq_false_iff]
  intro hc
  rw [isTagSeparator_of_isBlank hc] at h
  cases h

/-! ## A second normalization -/

/-- What a tag has in front of its first separator. -/
def language (tag : Text) : Text :=
  (trim tag).takeWhile (!isTagSeparator ·)

theorem isTagSeparator_of_mem_normalize {tag : Text} {c : Char} (h : c ∈ normalize tag) :
    isTagSeparator c = false := by
  obtain ⟨d, hd, heq⟩ := inRanges_of_mem_lowerAfter caseless_tagSeparatorRanges h
  rw [isTagSeparator_eq_inRanges, heq, ← isTagSeparator_eq_inRanges]
  simpa using List.all_eq_true.mp List.all_takeWhile d hd

theorem normalize_normalize_eq_trim (tag : Text) :
    normalize (normalize tag) = trim (normalize tag) := by
  have hmem : ∀ c ∈ trim (normalize tag), c ∈ normalize tag := fun c hc =>
    (trim_isInfix _).subset hc
  have hcut : (trim (normalize tag)).takeWhile (!isTagSeparator ·) = trim (normalize tag) := by
    rw [List.takeWhile_eq_self_iff]
    intro c hc
    rw [isTagSeparator_of_mem_normalize (hmem c hc), Bool.not_false]
  have hlower : lower (trim (normalize tag)) = trim (normalize tag) :=
    lower_of_lowerImage fun c hc => lowerImage_of_mem_lowerAfter (hmem c hc)
  rw [normalize, hcut, hlower]

/-! ## Blanks in front of the separator -/

theorem isBlank_of_head?_language {tag : Text} {c : Char} (h : (language tag).head? = some c) :
    isBlank c = false := by
  obtain ⟨rest, hrest⟩ := List.takeWhile_prefix (l := trim tag) (!isTagSeparator ·)
  apply (trimmed_trim tag).1 c
  rw [← hrest, List.head?_append]
  exact Option.or_eq_some_iff.mpr (.inl h)

theorem isBlank_of_head?_normalize {tag : Text} {c : Char} (h : (normalize tag).head? = some c) :
    isBlank c = false := by
  have hsame : (normalize tag).head?.map isBlank = (language tag).head?.map isBlank :=
    head?_lowerAfter caseless_blankRanges [] (language tag)
  rw [h] at hsame
  obtain ⟨d, hd, hblank⟩ := Option.map_eq_some_iff.mp hsame.symm
  rw [← hblank]
  exact isBlank_of_head?_language hd

theorem GapBeforeSeparator.exists_language {tag : Text} (h : GapBeforeSeparator tag) :
    ∃ front gap, language tag = front ++ [gap] ∧ isBlank gap = true := by
  obtain ⟨part, gap, separator, rest, rfl, hpart, hsolid, hgap, hseparator⟩ := h
  obtain ⟨before, hbefore, hsplit⟩ := exists_blanks_before part
  have hcore : StartsSolid (trimLeft part) := by
    refine startsSolid_of_head? (fun hnil => hsolid ?_) fun c => head?_trimLeft
    rw [hsplit, hnil, List.append_nil]
    exact hbefore
  have hlast : StartsSolid (trimLeft part ++ [gap, separator]).reverse := by
    rw [List.reverse_append]
    exact ⟨separator, _, rfl, isBlank_of_isTagSeparator hseparator⟩
  have htrim : trim (part ++ gap :: separator :: rest) =
      trimLeft part ++ [gap] ++ separator :: trimRight rest := by
    have htext : part ++ gap :: separator :: rest =
        before ++ (trimLeft part ++ [gap, separator] ++ rest) := by
      conv => lhs; rw [hsplit]
      simp
    rw [htext, trim, trimLeft_append hbefore ((hcore.append _).append rest), trimRight_append hlast]
    simp
  have hall : ∀ c ∈ trimLeft part ++ [gap], (!isTagSeparator c) = true := by
    intro c hc
    rcases List.mem_append.mp hc with hc | hc
    · rw [hpart c ((trimLeft_suffix part).subset hc), Bool.not_false]
    · rw [List.mem_singleton.mp hc, isTagSeparator_of_isBlank hgap, Bool.not_false]
  refine ⟨trimLeft part, gap, ?_, hgap⟩
  rw [language, htrim, List.takeWhile_append_of_pos hall, List.takeWhile_cons, hseparator]
  simp

theorem gapBeforeSeparator_of_language {tag front : Text} {gap : Char}
    (h : language tag = front ++ [gap]) (hgap : isBlank gap = true) : GapBeforeSeparator tag := by
  obtain ⟨before, after, hbefore, _, htag⟩ := exists_blanks_around tag
  have hsplit : trim tag = front ++ [gap] ++ (trim tag).dropWhile (!isTagSeparator ·) := by
    rw [← h, language, List.takeWhile_append_dropWhile]
  have hfront : ∃ c rest, front = c :: rest ∧ isBlank c = false := by
    have hhead : ∀ c, (language tag).head? = some c → isBlank c = false :=
      fun c => isBlank_of_head?_language
    rw [h] at hhead
    cases front with
    | nil => exact absurd hgap (by simp [hhead gap rfl])
    | cons c rest => exact ⟨c, rest, rfl, hhead c rfl⟩
  cases hrest : (trim tag).dropWhile (!isTagSeparator ·) with
  | nil =>
    rw [hrest, List.append_nil] at hsplit
    have hlast := (trimmed_trim tag).2 gap (by rw [hsplit, List.getLast?_concat])
    rw [hgap] at hlast
    cases hlast
  | cons separator rest =>
    have hseparator : isTagSeparator separator = true := by
      have hstop := List.head?_dropWhile_not (!isTagSeparator ·) (trim tag)
      simpa [hrest] using hstop
    refine ⟨before ++ front, gap, separator, rest ++ after, ?_, ?_, ?_, hgap, hseparator⟩
    · rw [hsplit, hrest] at htag
      rw [htag]
      simp
    · intro c hc
      rcases List.mem_append.mp hc with hc | hc
      · exact isTagSeparator_of_isBlank (hbefore c hc)
      · have hmem : c ∈ language tag := h ▸ List.mem_append_left _ hc
        simpa using List.all_eq_true.mp List.all_takeWhile c hmem
    · intro hblank
      obtain ⟨c, rest, rfl, hc⟩ := hfront
      rw [hblank c (by simp)] at hc
      cases hc

theorem trimmed_language_iff (tag : Text) :
    Trimmed (language tag) ↔ ¬ GapBeforeSeparator tag := by
  constructor
  · intro htrimmed hgap
    obtain ⟨front, gap, hlanguage, hblank⟩ := hgap.exists_language
    have hsolid := htrimmed.2 gap (by rw [hlanguage, List.getLast?_concat])
    rw [hblank] at hsolid
    cases hsolid
  · intro hno
    refine ⟨fun c hc => isBlank_of_head?_language hc, fun c hc => ?_⟩
    obtain ⟨front, hfront⟩ := List.getLast?_eq_some_iff.mp hc
    rw [Bool.eq_false_iff]
    intro hblank
    exact hno (gapBeforeSeparator_of_language hfront hblank)

/-- **When the code of a tag is in normal form.** It never holds a separator and never starts with a
blank. A second normalization takes the blanks off its end, and a third does nothing. There are none
to take off unless the tag has some between its language and the separator. -/
theorem normalize_normalize_iff (tag : Text) :
    (∀ c ∈ normalize tag, isTagSeparator c = false) ∧
      (∀ c, (normalize tag).head? = some c → isBlank c = false) ∧
      normalize (normalize tag) = trim (normalize tag) ∧
      normalize (normalize (normalize tag)) = normalize (normalize tag) ∧
      (Trimmed (normalize tag) ↔ ¬ GapBeforeSeparator tag) ∧
      (normalize (normalize tag) = normalize tag ↔ ¬ GapBeforeSeparator tag) := by
  have htrim := normalize_normalize_eq_trim tag
  have htrimmed : Trimmed (normalize tag) ↔ ¬ GapBeforeSeparator tag := by
    rw [← trimmed_language_iff]
    exact trimmed_lower_iff (language tag)
  refine ⟨fun c => isTagSeparator_of_mem_normalize, fun c => isBlank_of_head?_normalize, htrim, ?_,
    htrimmed, ?_⟩
  · rw [normalize_normalize_eq_trim (normalize tag), htrim]
    exact trim_of_trimmed (trimmed_trim _)
  · rw [htrim, ← htrimmed]
    constructor
    · intro heq
      rw [← heq]
      exact trimmed_trim _
    · exact trim_of_trimmed

def spacedTag : Text := "en _US".toList

theorem normalize_gapBeforeSeparator :
    normalize spacedTag = "en ".toList ∧ ¬ Trimmed (normalize spacedTag) ∧
      normalize (normalize spacedTag) = "en".toList ∧
      normalize (normalize spacedTag) ≠ normalize spacedTag := by
  have hfirst : normalize spacedTag = "en ".toList := by decide
  have hsecond : normalize "en ".toList = "en".toList := by decide
  rw [hfirst, hsecond]
  refine ⟨rfl, ?_, rfl, by decide⟩
  intro htrimmed
  exact absurd (htrimmed.2 ' ' rfl) (by decide)

end Locale
end Phrasebook
