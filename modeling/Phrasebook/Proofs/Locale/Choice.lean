import Phrasebook.Locale.Resolver

/-!
# Phrasebook.Proofs.Locale.Choice

Which of the supported locales a header chooses.

* `Decides`: the preference that decides is the first one of the greatest quality, among those that
  suit some of the locales.
* `ranked_eq`: without NaN, preferences are ranked by numbers.
* `exists_decides`: if a preference suits, one of them decides.
* `find?_ranked`: the deciding preference is the first of the ranking that suits.

`fromHeader_supported` says which locale is chosen for it.
-/

namespace Phrasebook
namespace Locale

/-- Some of the locales match the range of the preference. -/
def Suits (locales : List Text) (preference : Preference) : Prop :=
  ∃ tag ∈ locales, sameLanguage preference.range tag = true

instance (locales : List Text) (preference : Preference) : Decidable (Suits locales preference) :=
  inferInstanceAs (Decidable (∃ tag ∈ locales, sameLanguage preference.range tag = true))

/-- The preference suits some of the locales. The others that do have a smaller quality if they stand
before it, and no greater one if they stand after it. -/
def Decides (locales : List Text) (preferences : List Preference) (chosen : Preference) : Prop :=
  ∃ before after, preferences = before ++ chosen :: after ∧ Suits locales chosen ∧
    (∀ other ∈ before, Suits locales other → other.quality.lt chosen.quality = true) ∧
    ∀ other ∈ after, Suits locales other → chosen.quality.lt other.quality = false

/-- The tag has a property, and no tag before it has. -/
def IsFirst (p : Text → Bool) (tags : List Text) (tag : Text) : Prop :=
  ∃ before after, tags = before ++ tag :: after ∧ p tag = true ∧ ∀ other ∈ before, p other = false

/-! ## Qualities as numbers -/

/-- The place of a quality in the order of numbers. -/
def Preference.place (preference : Preference) : Int :=
  preference.quality.place?.getD 0

theorem lt_eq_place {a b : Preference} (ha : a.quality.isNaN = false)
    (hb : b.quality.isNaN = false) : a.quality.lt b.quality = decide (a.place < b.place) := by
  obtain ⟨range, quality⟩ := a
  obtain ⟨range', quality'⟩ := b
  cases quality with
  | nan => cases ha
  | number negative index =>
    cases quality' with
    | nan => cases hb
    | number negative' index' => rfl

/-- Without NaN, preferences are ranked by the places of their qualities. -/
theorem ranked_eq {preferences : List Preference}
    (hnan : ∀ p ∈ preferences, p.quality.isNaN = false) :
    ranked preferences = Ranking.ranked (fun a b => b.place ≤ a.place) preferences := by
  have hnone : preferences.any (·.quality.isNaN) = false := by
    simpa using hnan
  rw [ranked, hnone, if_neg Bool.false_ne_true]
  apply Ranking.ranked_congr
  intro a ha b hb
  rw [ranksBefore, lt_eq_place (hnan a ha) (hnan b hb), ← decide_not]
  simp only [Int.not_lt]

/-! ## The preference that decides -/

theorem decides_head {locales : List Text} {first : Preference} {rest : List Preference}
    (hsuits : Suits locales first)
    (h : ∀ other ∈ rest, Suits locales other → first.quality.lt other.quality = false) :
    Decides locales (first :: rest) first :=
  ⟨[], rest, rfl, hsuits, by simp, h⟩

theorem Decides.cons {locales : List Text} {first chosen : Preference} {rest : List Preference}
    (h : Decides locales rest chosen)
    (hfirst : Suits locales first → first.quality.lt chosen.quality = true) :
    Decides locales (first :: rest) chosen := by
  obtain ⟨before, after, rfl, hsuits, hbefore, hafter⟩ := h
  refine ⟨first :: before, after, rfl, hsuits, ?_, hafter⟩
  intro other hother hsuitsOther
  rcases List.mem_cons.mp hother with rfl | hother
  · exact hfirst hsuitsOther
  · exact hbefore other hother hsuitsOther

theorem Decides.mem {locales : List Text} {preferences : List Preference} {chosen : Preference}
    (h : Decides locales preferences chosen) : chosen ∈ preferences := by
  obtain ⟨before, after, rfl, _⟩ := h
  simp

/-- No preference that suits is better than the one that decides. -/
theorem Decides.not_lt {locales : List Text} {preferences : List Preference}
    {chosen other : Preference} (hnan : ∀ p ∈ preferences, p.quality.isNaN = false)
    (h : Decides locales preferences chosen) (hother : other ∈ preferences)
    (hsuits : Suits locales other) : ¬ chosen.place < other.place := by
  obtain ⟨before, after, rfl, _, hbefore, hafter⟩ := h
  have hchosen := hnan chosen (by simp)
  have hotherNaN := hnan other hother
  rcases List.mem_append.mp hother with hother | hother
  · have hlt := hbefore other hother hsuits
    rw [lt_eq_place hotherNaN hchosen, decide_eq_true_eq] at hlt
    omega
  · rcases List.mem_cons.mp hother with rfl | hother
    · exact Int.lt_irrefl _
    · have hle := hafter other hother hsuits
      rwa [lt_eq_place hchosen hotherNaN, decide_eq_false_iff_not] at hle

theorem exists_decides {locales : List Text} {preferences : List Preference}
    (hnan : ∀ p ∈ preferences, p.quality.isNaN = false)
    (h : ∃ p ∈ preferences, Suits locales p) : ∃ p, Decides locales preferences p := by
  induction preferences with
  | nil =>
    obtain ⟨p, hp, _⟩ := h
    cases hp
  | cons first rest ih =>
    obtain ⟨hfirst, hrestNaN⟩ := List.forall_mem_cons.mp hnan
    by_cases hrest : ∃ p ∈ rest, Suits locales p
    · obtain ⟨p, hp⟩ := ih hrestNaN hrest
      have hpNaN : p.quality.isNaN = false := hrestNaN p hp.mem
      -- the one in front decides if it suits and is as good as the one that decided so far
      by_cases hwins : Suits locales first ∧ ¬ first.place < p.place
      · refine ⟨first, decides_head hwins.1 fun other hother hsuits => ?_⟩
        have hfirstBest := hwins.2
        have hbest := hp.not_lt hrestNaN hother hsuits
        rw [lt_eq_place hfirst (hrestNaN other hother), decide_eq_false_iff_not]
        omega
      · refine ⟨p, hp.cons fun hsuits => ?_⟩
        rw [lt_eq_place hfirst hpNaN, decide_eq_true_eq]
        exact Decidable.not_not.mp fun hnot => hwins ⟨hsuits, hnot⟩
    · have hfirstSuits : Suits locales first := by
        obtain ⟨p, hp, hsuits⟩ := h
        rcases List.mem_cons.mp hp with rfl | hp
        · exact hsuits
        · exact absurd ⟨p, hp, hsuits⟩ hrest
      exact ⟨first, decides_head hfirstSuits fun other hother hsuits =>
        absurd ⟨other, hother, hsuits⟩ hrest⟩

theorem suited?_eq_none_iff {locales : List Text} {preference : Preference} :
    suited? locales preference.range = none ↔ ¬ Suits locales preference := by
  simp only [suited?_eq_none, Suits, not_exists, not_and, Bool.not_eq_true]

theorem place_total (a b : Preference) (h : decide (b.place ≤ a.place) = false) :
    decide (a.place ≤ b.place) = true := by
  simp only [decide_eq_false_iff_not, decide_eq_true_eq] at h ⊢
  omega

theorem place_trans (a b c : Preference) (hab : decide (b.place ≤ a.place) = true)
    (hbc : decide (c.place ≤ b.place) = true) : decide (c.place ≤ a.place) = true := by
  simp only [decide_eq_true_eq] at hab hbc ⊢
  omega

theorem find?_ranked {locales : List Text} {preferences : List Preference} {chosen : Preference}
    (hnan : ∀ p ∈ preferences, p.quality.isNaN = false)
    (h : Decides locales preferences chosen) :
    (ranked preferences).find? (fun p => Suits locales p) = some chosen := by
  obtain ⟨before, after, rfl, hsuits, hbefore, hafter⟩ := h
  have hchosen := hnan chosen (by simp)
  rw [← List.head?_filter, ranked_eq hnan, ← Ranking.ranked_filter place_total place_trans,
    List.filter_append, List.filter_cons_of_pos (by simpa using hsuits)]
  apply Ranking.head?_ranked
  · intro other hother
    obtain ⟨hmem, hother⟩ := List.mem_filter.mp hother
    have hlt := hbefore other hmem (by simpa using hother)
    rw [lt_eq_place (hnan other (by simp [hmem])) hchosen, decide_eq_true_eq] at hlt
    simp only [decide_eq_false_iff_not]
    omega
  · intro other hother
    obtain ⟨hmem, hother⟩ := List.mem_filter.mp hother
    have hle := hafter other hmem (by simpa using hother)
    rw [lt_eq_place hchosen (hnan other (by simp [hmem])), decide_eq_false_iff_not] at hle
    simp only [decide_eq_true_eq]
    omega

theorem bestMatch?_of_decides {locales : List Text} {preferences : List Preference}
    {chosen : Preference} (hnan : ∀ p ∈ preferences, p.quality.isNaN = false)
    (h : Decides locales preferences chosen) :
    bestMatch? ((ranked preferences).map (·.range)) locales = suited? locales chosen.range := by
  obtain ⟨hsuits, before, after, hranked, hbefore⟩ :=
    List.find?_eq_some_iff_append.mp (find?_ranked hnan h)
  obtain ⟨tag, htag⟩ : ∃ tag, suited? locales chosen.range = some tag := by
    apply Option.ne_none_iff_exists'.mp
    intro hnone
    exact suited?_eq_none_iff.mp hnone (by simpa using hsuits)
  rw [bestMatch?, List.findSome?_map, htag]
  refine List.findSome?_eq_some_iff.mpr ⟨before, chosen, after, hranked, htag, ?_⟩
  intro other hother
  exact suited?_eq_none_iff.mpr (by simpa using hbefore other hother)

theorem bestMatch?_eq_none {locales : List Text} {preferences : List Preference}
    (h : ∀ p ∈ preferences, ¬ Suits locales p) :
    bestMatch? ((ranked preferences).map (·.range)) locales = none := by
  rw [bestMatch?, List.findSome?_map, List.findSome?_eq_none_iff]
  intro p hp
  exact suited?_eq_none_iff.mpr (h p ((perm_ranked preferences).mem_iff.mp hp))

/-! ## The chosen locale -/

theorem isFirst_of_find? {p : Text → Bool} {tags : List Text} {tag : Text}
    (h : tags.find? p = some tag) : IsFirst p tags tag := by
  obtain ⟨hp, before, after, hsplit, hbefore⟩ := List.find?_eq_some_iff_append.mp h
  exact ⟨before, after, hsplit, hp, fun other hother => by simpa using hbefore other hother⟩

theorem isFirst_of_suited? {locales : List Text} {range tag : Text}
    (h : suited? locales range = some tag) :
    IsFirst (sameTag range) locales tag ∨
      (∀ other ∈ locales, sameTag range other = false) ∧ IsFirst (sameLanguage range) locales tag := by
  rw [suited?, Option.or_eq_some_iff] at h
  rcases h with h | ⟨hnone, h⟩
  · exact .inl (isFirst_of_find? h)
  · refine .inr ⟨fun other hother => ?_, isFirst_of_find? h⟩
    simpa using List.find?_eq_none.mp hnone other hother

theorem fromHeader_eq {header : Text} (hheader : header ≠ []) (resolver : Resolver)
    (locales : List Text) :
    resolver.fromHeader header (some locales) =
      (bestMatch? (rankedRanges header) locales).getD resolver.defaultLocale := by
  rw [Resolver.fromHeader, findInHeader, if_neg hheader]
  cases bestMatch? (rankedRanges header) locales with
  | none => rfl
  | some tag => rfl

/-- **The best preference decides.** If the locales match no range of the header, the default locale
is used. Else there is a preference that decides, and for it the first locale with an equal tag is
chosen, or the first one that matches if no tag is equal. -/
theorem fromHeader_supported (resolver : Resolver) {header : Text} (hheader : header ≠ [])
    (hnan : ∀ p ∈ parseHeader header, p.quality.isNaN = false) (locales : List Text) :
    ((∀ p ∈ parseHeader header, ∀ tag ∈ locales, sameLanguage p.range tag = false) →
        resolver.fromHeader header (some locales) = resolver.defaultLocale) ∧
      ((∃ p ∈ parseHeader header, ∃ tag ∈ locales, sameLanguage p.range tag = true) →
        ∃ p, Decides locales (parseHeader header) p) ∧
      ∀ p, Decides locales (parseHeader header) p →
        IsFirst (sameTag p.range) locales (resolver.fromHeader header (some locales)) ∨
          (∀ tag ∈ locales, sameTag p.range tag = false) ∧
            IsFirst (sameLanguage p.range) locales (resolver.fromHeader header (some locales)) := by
  rw [fromHeader_eq hheader, rankedRanges]
  refine ⟨?_, exists_decides hnan, ?_⟩
  · intro hnone
    have hunsuited : ∀ p ∈ parseHeader header, ¬ Suits locales p := by
      rintro p hp ⟨tag, htag, hmatch⟩
      rw [hnone p hp tag htag] at hmatch
      cases hmatch
    rw [bestMatch?_eq_none hunsuited, Option.getD_none]
  · intro p hdecides
    have hbest := bestMatch?_of_decides hnan hdecides
    obtain ⟨_, _, _, hsuits, _⟩ := hdecides
    cases htag : suited? locales p.range with
    | none => exact absurd hsuits (suited?_eq_none_iff.mp htag)
    | some tag =>
      rw [hbest, htag, Option.getD_some]
      exact isFirst_of_suited? htag

def tiedHeader : Text := "en-GB, de;q=0.9,fr;q=0.9".toList

def tiedLocales : List Text := ["fr".toList, "de-AT".toList, "DE".toList]

/-- Of the two ranges of quality 0.9 the first decides, and an equal tag wins over the first match. -/
theorem fromHeader_tiedHeader :
    tiedHeader ≠ [] ∧ (∀ p ∈ parseHeader tiedHeader, p.quality.isNaN = false) ∧
      Decides tiedLocales (parseHeader tiedHeader)
        ⟨"de".toList, qualityOf "de;q=0.9".toList⟩ ∧
      IsFirst (sameTag "de".toList) tiedLocales
        ((Resolver.mk "en".toList).fromHeader tiedHeader (some tiedLocales)) ∧
      (Resolver.mk "en".toList).fromHeader tiedHeader (some tiedLocales) = "DE".toList := by
  have hheader : tiedHeader ≠ [] := by decide
  have hnan : ∀ p ∈ parseHeader tiedHeader, p.quality.isNaN = false := by decide
  have hparsed : parseHeader tiedHeader = [⟨"en-GB".toList, .one⟩] ++
      ⟨"de".toList, qualityOf "de;q=0.9".toList⟩ ::
        [⟨"fr".toList, qualityOf "fr;q=0.9".toList⟩] := by
    decide +kernel
  have hdecides : Decides tiedLocales (parseHeader tiedHeader)
      ⟨"de".toList, qualityOf "de;q=0.9".toList⟩ :=
    ⟨_, _, hparsed, by decide +kernel, by decide +kernel, by decide +kernel⟩
  obtain ⟨_, _, hchosen⟩ :=
    fromHeader_supported (Resolver.mk "en".toList) hheader hnan tiedLocales
  rcases hchosen _ hdecides with hequal | ⟨hnone, _⟩
  · exact ⟨hheader, hnan, hdecides, hequal, by decide +kernel⟩
  · exact absurd (hnone "DE".toList (by decide)) (by decide)

end Locale
end Phrasebook
