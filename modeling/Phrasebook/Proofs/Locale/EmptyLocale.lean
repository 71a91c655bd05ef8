import Phrasebook.Locale.Resolver
import Phrasebook.Proofs.Text.Blanks

/-!
# Phrasebook.Proofs.Locale.EmptyLocale

When a header gives the empty text for a locale. The language of a tag is what stands before its
first separator, so a tag that starts with a separator has an empty one. In an environment such a
language is passed over; in a header it is not.

* `normalize_eq_nil_iff`: the tags with an empty language.
* `mem_rankedRanges`: the ranges of a header are trimmed texts that are not empty.

`fromHeader_eq_nil_iff` says which headers give the empty text, and `fromHeader_separatorOnly` is one
of them.
-/

namespace Phrasebook
namespace Locale

theorem normalize_eq_nil_iff {tag : Text} (htrimmed : Text.Trimmed tag) (hne : tag ≠ []) :
    normalize tag = [] ↔ ∃ c rest, tag = c :: rest ∧ isTagSeparator c = true := by
  rw [normalize, Text.lower_eq_nil_iff, Text.trim_of_trimmed htrimmed]
  cases tag with
  | nil => exact absurd rfl hne
  | cons c rest => simp [List.takeWhile_cons]

theorem mem_rankedRanges {header range : Text} (h : range ∈ rankedRanges header) :
    range ≠ [] ∧ Text.Trimmed range := by
  simp only [rankedRanges, List.mem_map] at h
  obtain ⟨p, hp, rfl⟩ := h
  rw [(perm_ranked _).mem_iff, parseHeader, List.mem_filterMap] at hp
  obtain ⟨item, _, hitem⟩ := hp
  simp only [preferenceOf?] at hitem
  split at hitem
  · cases hitem
  · rename_i hne
    cases hitem
    exact ⟨hne, Text.trimmed_trim _⟩

theorem normalize_range_eq_nil_iff {header range : Text} (h : range ∈ rankedRanges header) :
    normalize range = [] ↔ ∃ c rest, range = c :: rest ∧ isTagSeparator c = true := by
  obtain ⟨hne, htrimmed⟩ := mem_rankedRanges h
  exact normalize_eq_nil_iff htrimmed hne

theorem mem_of_bestMatch? {requested available : List Text} {tag : Text}
    (h : bestMatch? requested available = some tag) : tag ∈ available := by
  obtain ⟨range, _, hrange⟩ := List.exists_of_findSome?_eq_some h
  exact (mem_of_suited? hrange).1

section
variable {resolver : Resolver}

theorem fromHeader_some_ne_nil (hdefault : resolver.defaultLocale ≠ []) {locales : List Text}
    (hlocales : [] ∉ locales) (header : Text) : resolver.fromHeader header (some locales) ≠ [] := by
  rw [Resolver.fromHeader, findInHeader]
  split
  · exact hdefault
  · cases hbest : bestMatch? (rankedRanges header) locales with
    | none => exact hdefault
    | some tag =>
      intro hnil
      have htag : tag = [] := hnil
      exact hlocales (htag ▸ mem_of_bestMatch? hbest)

theorem fromHeader_none_eq_nil_iff (hdefault : resolver.defaultLocale ≠ []) (header : Text) :
    resolver.fromHeader header none = [] ↔
      ∃ range, (rankedRanges header).find? (· ≠ anyLanguage) = some range ∧ normalize range = [] := by
  rw [Resolver.fromHeader, findInHeader]
  split
  · rename_i hheader
    have hranges : rankedRanges [] = [] := rfl
    simp [HeaderFinding.locale, hdefault, hheader, hranges]
  · cases hfind : (rankedRanges header).find? (· ≠ anyLanguage) with
    | none => simp [HeaderFinding.locale, hdefault]
    | some range => simp [HeaderFinding.locale]

/-- **Which headers give the empty text.** Let the default locale and the supported ones have a text.
Then a header gives a locale with a text, except that there are no supported locales to choose from
and the first range that names a language starts with a separator. -/
theorem fromHeader_eq_nil_iff (hdefault : resolver.defaultLocale ≠ [])
    {supported : Option (List Text)} (hsupported : ∀ locales, supported = some locales → [] ∉ locales)
    (header : Text) :
    resolver.fromHeader header supported = [] ↔
      supported = none ∧ ∃ c rest,
        (rankedRanges header).find? (· ≠ anyLanguage) = some (c :: rest) ∧
          isTagSeparator c = true := by
  cases supported with
  | some locales =>
    have hne := fromHeader_some_ne_nil hdefault (hsupported locales rfl) header
    simp [hne]
  | none =>
    rw [fromHeader_none_eq_nil_iff hdefault]
    constructor
    · rintro ⟨range, hfind, hnil⟩
      have hrange := normalize_range_eq_nil_iff (List.mem_of_find?_eq_some hfind)
      obtain ⟨c, rest, rfl, hc⟩ := hrange.mp hnil
      exact ⟨rfl, c, rest, hfind, hc⟩
    · rintro ⟨_, c, rest, hfind, hc⟩
      have hrange := normalize_range_eq_nil_iff (List.mem_of_find?_eq_some hfind)
      exact ⟨c :: rest, hfind, hrange.mpr ⟨c, rest, rfl, hc⟩⟩

end

def brokenHeader : Text := "*, -US;q=0.5, fr;q=0.1".toList

/-- The wildcard is passed over, and the range behind it has no language in front. With locales to
choose from the same header gives one of them. -/
theorem fromHeader_brokenHeader :
    (Resolver.ofDefault []).defaultLocale ≠ [] ∧
      (∀ locales, some ["fr".toList] = some locales → [] ∉ locales) ∧
      (Resolver.ofDefault []).fromHeader brokenHeader none = [] ∧
      (Resolver.ofDefault []).fromHeader brokenHeader (some ["fr".toList]) ≠ [] := by
  have hdefault := defaultLocale_ofDefault_ne_nil []
  have hsupported : ∀ locales, some ["fr".toList] = some locales → [] ∉ locales := by
    intro locales hlocales
    cases hlocales
    decide
  refine ⟨hdefault, hsupported, ?_, ?_⟩
  · apply (fromHeader_eq_nil_iff hdefault (by simp) brokenHeader).mpr
    exact ⟨rfl, '-', "US".toList, by decide +kernel, by decide⟩
  · intro hnil
    have hnone := ((fromHeader_eq_nil_iff hdefault hsupported brokenHeader).mp hnil).1
    cases hnone

theorem fromHeader_separatorOnly :
    (Resolver.ofDefault []).defaultLocale ≠ [] ∧
      (Resolver.ofDefault []).fromHeader "-".toList none = [] := by
  decide

end Locale
end Phrasebook
