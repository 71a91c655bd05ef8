import Phrasebook.Proofs.Locale.Choice

/-!
# Phrasebook.Proofs.Locale.Acceptance

Whether the locale that a header chooses is one that the client accepts. A client rules a language
out by giving it the quality zero, but qualities only rank the ranges of a header: a range of quality
zero is the last that is looked at, and it is looked at.

* `Decides.accepted`: where an accepted range suits, the range that decides is accepted.
* `exists_decides_of_other`: a locale other than the default is there because a range decides for it.

`fromHeader_accepted_iff` says when the chosen locale is accepted, and `fromHeader_refusedLanguage`
is a header that chooses the only language it rules out.
-/

namespace Phrasebook
namespace Locale

/-- The client accepts the range: its quality is greater than zero. -/
def Preference.Accepted (preference : Preference) : Prop :=
  (Binary64.number false 0).lt preference.quality = true

instance (preference : Preference) : Decidable preference.Accepted :=
  inferInstanceAs (Decidable (_ = true))

theorem Preference.accepted_iff {preference : Preference}
    (hnan : preference.quality.isNaN = false) : preference.Accepted ↔ 0 < preference.place := by
  obtain ⟨range, quality⟩ := preference
  cases quality with
  | nan => cases hnan
  | number negative index => simp [Accepted, place, Binary64.lt, Binary64.place?]

section
variable {header : Text} {locales : List Text} {preferences : List Preference}

theorem Decides.accepted {chosen other : Preference}
    (hnan : ∀ p ∈ preferences, p.quality.isNaN = false)
    (h : Decides locales preferences chosen) (hother : other ∈ preferences)
    (hsuits : Suits locales other) (haccepted : other.Accepted) : chosen.Accepted := by
  have hbest := h.not_lt hnan hother hsuits
  rw [Preference.accepted_iff (hnan other hother)] at haccepted
  rw [Preference.accepted_iff (hnan chosen h.mem)]
  omega

theorem exists_decides_of_other {resolver : Resolver}
    (hnan : ∀ p ∈ parseHeader header, p.quality.isNaN = false)
    (hother : resolver.fromHeader header (some locales) ≠ resolver.defaultLocale) :
    ∃ p, Decides locales (parseHeader header) p ∧
      suited? locales p.range = some (resolver.fromHeader header (some locales)) := by
  have hheader : header ≠ [] := by
    rintro rfl
    exact hother rfl
  rw [fromHeader_eq hheader] at hother ⊢
  by_cases hsuits : ∃ p ∈ parseHeader header, Suits locales p
  · obtain ⟨p, hdecides⟩ := exists_decides hnan hsuits
    have hbest : bestMatch? (rankedRanges header) locales = suited? locales p.range :=
      bestMatch?_of_decides hnan hdecides
    refine ⟨p, hdecides, ?_⟩
    rw [hbest] at hother ⊢
    cases htag : suited? locales p.range with
    | none => rw [htag] at hother; exact absurd rfl hother
    | some tag => rfl
  · have hnone : bestMatch? (rankedRanges header) locales = none :=
      bestMatch?_eq_none fun p hp hp' => hsuits ⟨p, hp, hp'⟩
    rw [hnone] at hother
    exact absurd rfl hother

/-- **What is accepted wins, if it suits.** A locale other than the default that a header chooses is
one of the supported ones and matches a range of the header. It matches an accepted range just when
some accepted range matches some supported locale. -/
theorem fromHeader_accepted_iff {resolver : Resolver}
    (hnan : ∀ p ∈ parseHeader header, p.quality.isNaN = false)
    (hother : resolver.fromHeader header (some locales) ≠ resolver.defaultLocale) :
    let chosen := resolver.fromHeader header (some locales)
    chosen ∈ locales ∧
    (∃ p ∈ parseHeader header, sameLanguage p.range chosen = true) ∧
    ((∃ p ∈ parseHeader header, p.Accepted ∧ sameLanguage p.range chosen = true) ↔
      ∃ p ∈ parseHeader header, p.Accepted ∧ ∃ tag ∈ locales, sameLanguage p.range tag = true) := by
  intro chosen
  obtain ⟨p, hdecides, hsuited⟩ := exists_decides_of_other hnan hother
  obtain ⟨hmem, hmatch⟩ := mem_of_suited? hsuited
  refine ⟨hmem, ⟨p, hdecides.mem, hmatch⟩, ?_⟩
  constructor
  · rintro ⟨q, hq, haccepted, hqmatch⟩
    exact ⟨q, hq, haccepted, chosen, hmem, hqmatch⟩
  · rintro ⟨q, hq, haccepted, hsuits⟩
    exact ⟨p, hdecides.mem, hdecides.accepted hnan hq hsuits haccepted, hmatch⟩

end

def weighedHeader : Text := "de;q=0, es, fr;q=0.3".toList

def weighedLocales : List Text := ["de".toList, "fr-CA".toList]

/-- The best range suits no locale and the first one is ruled out, so the last one is left. -/
theorem fromHeader_accepted_weighed :
    (∀ p ∈ parseHeader weighedHeader, p.quality.isNaN = false) ∧
      (Resolver.mk "en".toList).fromHeader weighedHeader (some weighedLocales) ≠ "en".toList ∧
      ∃ p ∈ parseHeader weighedHeader, p.Accepted ∧
        sameLanguage p.range
          ((Resolver.mk "en".toList).fromHeader weighedHeader (some weighedLocales)) = true := by
  have hnan : ∀ p ∈ parseHeader weighedHeader, p.quality.isNaN = false := by decide
  have hother : (Resolver.mk "en".toList).fromHeader weighedHeader (some weighedLocales) ≠
      "en".toList := by
    decide +kernel
  obtain ⟨_, _, haccepted⟩ := fromHeader_accepted_iff hnan hother
  exact ⟨hnan, hother, haccepted.mpr (by decide +kernel)⟩

def refusingHeader : Text := "fr;q=0".toList

theorem fromHeader_refusedLanguage :
    (∀ p ∈ parseHeader refusingHeader, p.quality.isNaN = false) ∧
      (Resolver.mk "en".toList).fromHeader refusingHeader (some ["fr".toList]) = "fr".toList ∧
      "fr".toList ≠ (Resolver.mk "en".toList).defaultLocale ∧
      ¬ ∃ p ∈ parseHeader refusingHeader, p.Accepted ∧
        sameLanguage p.range "fr".toList = true := by
  decide

end Locale
end Phrasebook
