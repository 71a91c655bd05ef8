import Mathlib.Data.Setoid.Basic
import Phrasebook.Locale.Negotiation
import Phrasebook.Proofs.Locale.NormalForm
import Phrasebook.Proofs.Text.Ascii

/-!
# Phrasebook.Proofs.Locale.LanguageClass

Matching of languages for tags of ASCII characters. Two tags match if they are equal, case ignored, or
if their codes are equal. For these tags the first test adds nothing, because lower case does not
depend on where a character stands: it can be taken before the language is cut out or after
(`normalize_of_ascii`). So the tags fall into classes, one for each code.

* `sameLanguage_iff_code`: two tags match if they have the same code.
* `FindsMatch`: a search that finds a matching tag, if there is one.
* `FindsMatch.findSome?`: what such a search finds for several tags is of the first class that is
  available.

`sameLanguage_equivalence` puts them together. Beyond ASCII matching is no equivalence: the lower case
of a capital sigma depends on what follows it, and cutting the language out takes that away.
-/

namespace Phrasebook
namespace Locale

open Unicode Text

structure AsciiTag where
  text : Text
  lt_of_mem : ∀ c ∈ text, c.toNat < 128

/-- The language code of a tag. -/
def AsciiTag.code (tag : AsciiTag) : Text :=
  normalize tag.text

def texts (tags : List AsciiTag) : List Text :=
  tags.map (·.text)

def codes (tags : List AsciiTag) : List Text :=
  tags.map (·.code)

/-! ## Lower case -/

theorem isBlank_toLower (c : Char) : isBlank c.toLower = isBlank c :=
  caseless_blankRanges.inRanges_toLower c

theorem isTagSeparator_toLower (c : Char) : isTagSeparator c.toLower = isTagSeparator c := by
  rw [isTagSeparator_eq_inRanges, isTagSeparator_eq_inRanges,
    caseless_tagSeparatorRanges.inRanges_toLower]

theorem language_map_toLower (tag : Text) :
    language (tag.map Char.toLower) = (language tag).map Char.toLower := by
  have hsame : (fun c => !isTagSeparator c) ∘ Char.toLower = fun c => !isTagSeparator c :=
    funext fun c => congrArg not (isTagSeparator_toLower c)
  rw [language, trim_map isBlank_toLower, List.takeWhile_map, hsame, ← language]

theorem mem_of_mem_language {tag : Text} {c : Char} (h : c ∈ language tag) : c ∈ tag :=
  (trim_isInfix tag).subset ((List.takeWhile_prefix _).subset h)

/-- Taking the lower case first gives the same code. -/
theorem normalize_of_ascii {tag : Text} (h : ∀ c ∈ tag, c.toNat < 128) :
    normalize tag = language (lower tag) := by
  have hlanguage : ∀ c ∈ language tag, c.toNat < 128 := fun c hc => h c (mem_of_mem_language hc)
  calc normalize tag
      = lower (language tag) := rfl
    _ = (language tag).map Char.toLower := lower_of_ascii hlanguage
    _ = language (tag.map Char.toLower) := (language_map_toLower tag).symm
    _ = language (lower tag) := by rw [lower_of_ascii h]

/-! ## Classes -/

theorem code_eq_of_sameTag {a b : AsciiTag} (h : sameTag a.text b.text = true) :
    a.code = b.code := by
  have hlower : lower a.text = lower b.text := by simpa [sameTag, equalIgnoringCase] using h
  rw [AsciiTag.code, AsciiTag.code, normalize_of_ascii a.lt_of_mem, normalize_of_ascii b.lt_of_mem,
    hlower]

theorem sameLanguage_iff_code (a b : AsciiTag) :
    sameLanguage a.text b.text = true ↔ a.code = b.code := by
  rw [sameLanguage, Bool.or_eq_true, beq_iff_eq]
  constructor
  · rintro (h | h)
    · exact code_eq_of_sameTag h
    · exact h
  · exact .inr

theorem equivalence_sameLanguage :
    Equivalence fun a b : AsciiTag => sameLanguage a.text b.text = true := by
  simp only [sameLanguage_iff_code]
  exact (Setoid.ker AsciiTag.code).iseqv

/-! ## Searches -/

/-- The search for a tag finds an available one that matches it, if there is one. -/
structure FindsMatch (available : List Text) (search : Text → Option Text) : Prop where
  of_some : ∀ {requested tag}, search requested = some tag →
    tag ∈ available ∧ sameLanguage requested tag = true
  of_none : ∀ {requested}, search requested = none →
    ∀ tag ∈ available, sameLanguage requested tag = false

theorem findsMatch_suited? (available : List Text) : FindsMatch available (suited? available) where
  of_some := mem_of_suited?
  of_none := suited?_eq_none.mp

theorem findsMatch_find? (available : List Text) :
    FindsMatch available fun requested => available.find? (sameLanguage requested) where
  of_some h := ⟨List.mem_of_find?_eq_some h, List.find?_some h⟩
  of_none h tag htag := by simpa using List.find?_eq_none.mp h tag htag

section
variable {available : List AsciiTag} {search : Text → Option Text}
  (h : FindsMatch (texts available) search)
include h

theorem FindsMatch.map_normalize (requested : AsciiTag) :
    (search requested.text).map normalize =
      if requested.code ∈ codes available then some requested.code else none := by
  cases hsearch : search requested.text with
  | none =>
    have hnone : requested.code ∉ codes available := by
      intro hmem
      obtain ⟨tag, htag, hcode⟩ := List.mem_map.mp hmem
      have hmatch := (sameLanguage_iff_code requested tag).mpr hcode.symm
      rw [h.of_none hsearch tag.text (List.mem_map_of_mem htag)] at hmatch
      cases hmatch
    rw [if_neg hnone]
    rfl
  | some text =>
    obtain ⟨hmem, hmatch⟩ := h.of_some hsearch
    obtain ⟨tag, htag, rfl⟩ := List.mem_map.mp hmem
    have hcode : requested.code = tag.code := (sameLanguage_iff_code requested tag).mp hmatch
    have hsome : requested.code ∈ codes available := hcode ▸ List.mem_map_of_mem htag
    rw [if_pos hsome, hcode]
    rfl

theorem FindsMatch.findSome? (requested : List AsciiTag) :
    ((texts requested).findSome? search).map normalize =
      (codes requested).find? (· ∈ codes available) := by
  induction requested with
  | nil => rfl
  | cons first rest ih =>
    have hfirst := h.map_normalize first
    have htexts : texts (first :: rest) = first.text :: texts rest := rfl
    have hcodes : codes (first :: rest) = first.code :: codes rest := rfl
    rw [htexts, hcodes, List.findSome?_cons, List.find?_cons]
    -- both searches go on to the rest just when the class of the first tag is not available
    by_cases hmem : first.code ∈ codes available
    · rw [if_pos hmem] at hfirst
      obtain ⟨tag, htag, hcode⟩ := Option.map_eq_some_iff.mp hfirst
      simp [htag, hcode, hmem]
    · rw [if_neg hmem] at hfirst
      simp [Option.map_eq_none_iff.mp hfirst, hmem, ih]

end

/-- **Matching is an equivalence.** Tags of ASCII characters match just when their codes are equal, so
they fall into classes, and equal tags are in one class. A best match is one of the available tags,
and its class is the first of the requested ones that is available. The class does not change if equal
tags are not looked for first. -/
theorem sameLanguage_equivalence :
    (∀ a b : AsciiTag, sameLanguage a.text b.text = true ↔ normalize a.text = normalize b.text) ∧
      (Equivalence fun a b : AsciiTag => sameLanguage a.text b.text = true) ∧
      (∀ a b : AsciiTag, sameTag a.text b.text = true → sameLanguage a.text b.text = true) ∧
      ∀ requested available : List AsciiTag,
        (∀ tag, bestMatch? (texts requested) (texts available) = some tag → tag ∈ texts available) ∧
          (bestMatch? (texts requested) (texts available)).map normalize =
            (codes requested).find? (· ∈ codes available) ∧
          ((texts requested).findSome? fun tag =>
              (texts available).find? (sameLanguage tag)).map normalize =
            (codes requested).find? (· ∈ codes available) := by
  refine ⟨sameLanguage_iff_code, equivalence_sameLanguage, fun a b => sameLanguage_of_sameTag, ?_⟩
  intro requested available
  refine ⟨?_, (findsMatch_suited? _).findSome? requested, (findsMatch_find? _).findSome? requested⟩
  intro tag hbest
  obtain ⟨_, _, hsuited⟩ := List.exists_of_findSome?_eq_some hbest
  exact (mem_of_suited? hsuited).1

def requestedTags : List AsciiTag :=
  [⟨['d', 'e'], by simp⟩, ⟨['P', 'T', '-', 'b', 'r'], by simp⟩]

def availableTags : List AsciiTag :=
  [⟨['p', 't'], by simp⟩, ⟨['p', 't', '-', 'B', 'R'], by simp⟩]

/-- Both available tags are in the class of the second requested one, and the equal one is found. -/
theorem sameLanguage_availableTags :
    sameTag "PT-br".toList "pt-BR".toList = true ∧
      sameLanguage "PT-br".toList "pt-BR".toList = true ∧
      bestMatch? (texts requestedTags) (texts availableTags) = some "pt-BR".toList ∧
      "pt-BR".toList ∈ texts availableTags ∧
      (codes requestedTags).find? (· ∈ codes availableTags) = some "pt".toList := by
  obtain ⟨_, _, hstrict, hsearch⟩ := sameLanguage_equivalence
  obtain ⟨hmem, hclass, _⟩ := hsearch requestedTags availableTags
  have hequal : sameTag "PT-br".toList "pt-BR".toList = true := by decide
  have hbest : bestMatch? (texts requestedTags) (texts availableTags) = some "pt-BR".toList := by
    decide
  have hcode : normalize "pt-BR".toList = "pt".toList := by decide
  rw [hbest, Option.map_some, hcode] at hclass
  exact ⟨hequal, hstrict requestedTags[1] availableTags[1] hequal, hbest, hmem _ hbest, hclass.symm⟩

/-- Beyond ASCII two tags can match the same tag and not each other. -/
example :
    sameLanguage "ασ.x".toList "ΑΣ.x".toList = true ∧
      sameLanguage "ΑΣ.x".toList "ΑΣ".toList = true ∧
      sameLanguage "ασ.x".toList "ΑΣ".toList = false := by
  decide +kernel

end Locale
end Phrasebook
