import Phrasebook.Proofs.Text.Blanks
import Phrasebook.Proofs.Value
import Phrasebook.Settings.Basic

/-!
# Phrasebook.Proofs.Settings.Sources

Where the locale settings come from, and when there are none.

* `Chosen`: the value that a setting takes from its sources, the strongest of which stand in front.
* `refusal?`: what is wrong with the chosen value of a setting. It is blank, or has no text.
* `localeOf_of_refusal?`, `exists_locale`: what becomes of a chosen value.
* `build_chosen`: there are locale settings just when nothing is wrong with the chosen values, and the
  errors tell with which of them there is.
-/

namespace Phrasebook
namespace Settings

open Text

/-- A value of a setting that no stronger source has another value for. -/
def Chosen (sources : List SettingSource) (name : Text) (value : Value) : Prop :=
  ∃ stronger source weaker, sources = stronger ++ source :: weaker ∧
    source.lookup name = some value ∧ ∀ other ∈ stronger, other.lookup name = none

theorem valueOf?_eq_some_iff {sources : List SettingSource} {name : Text} {value : Value} :
    valueOf? sources name = some value ↔ Chosen sources name value :=
  List.findSome?_eq_some_iff

/-- The chosen value has no text but blanks. -/
def BlankIn (sources : List SettingSource) (name : Text) : Prop :=
  ∃ value text, Chosen sources name value ∧ value.toText = .ok text ∧ AllBlank text

/-- The chosen value has no text at all. -/
def TextlessIn (sources : List SettingSource) (name : Text) : Prop :=
  ∃ value, Chosen sources name value ∧ ¬ value.HasText

theorem blankIn_iff {sources : List SettingSource} {name : Text} :
    (valueOf? sources name).any
        (fun value => value.HasText ∧ value.shown.all Unicode.isBlank = true) = true ↔
      BlankIn sources name := by
  rw [Option.any_eq_true]
  constructor
  · rintro ⟨value, hvalue, hblank⟩
    obtain ⟨htext, hblank⟩ := of_decide_eq_true hblank
    refine ⟨value, value.shown, valueOf?_eq_some_iff.mp hvalue, ?_, List.all_eq_true.mp hblank⟩
    exact Value.toText_eq_ok_iff.mpr ⟨htext, rfl⟩
  · rintro ⟨value, text, hvalue, htext, hblank⟩
    obtain ⟨hhas, rfl⟩ := Value.toText_eq_ok_iff.mp htext
    refine ⟨value, valueOf?_eq_some_iff.mpr hvalue, decide_eq_true ⟨hhas, ?_⟩⟩
    exact List.all_eq_true.mpr hblank

theorem textlessIn_iff {sources : List SettingSource} {name : Text} :
    (valueOf? sources name).any (fun value => ¬ value.HasText) = true ↔ TextlessIn sources name := by
  rw [Option.any_eq_true]
  constructor
  · rintro ⟨value, hvalue, htextless⟩
    exact ⟨value, valueOf?_eq_some_iff.mp hvalue, of_decide_eq_true htextless⟩
  · rintro ⟨value, hvalue, htextless⟩
    exact ⟨value, valueOf?_eq_some_iff.mpr hvalue, decide_eq_true htextless⟩

instance (sources : List SettingSource) (name : Text) : Decidable (BlankIn sources name) :=
  decidable_of_iff _ blankIn_iff

instance (sources : List SettingSource) (name : Text) : Decidable (TextlessIn sources name) :=
  decidable_of_iff _ textlessIn_iff

/-- A locale that a setting comes to have. -/
structure Settles (sources : List SettingSource) (name locale : Text) : Prop where
  stripped : ∀ value, Chosen sources name value → ∃ before after,
    AllBlank before ∧ AllBlank after ∧ value.toText = .ok (before ++ (locale ++ after))
  builtIn : (∀ source ∈ sources, source.lookup name = none) → locale = "en".toList
  ne_nil : locale ≠ []
  trimmed : Trimmed locale

theorem trim_eq_nil_iff {t : Text} : trim t = [] ↔ AllBlank t := by
  constructor
  · intro h
    obtain ⟨before, after, hbefore, hafter, ht⟩ := exists_blanks_around t
    rw [h, List.nil_append] at ht
    rw [ht]
    exact hbefore.append hafter
  · intro h
    rw [trim, trimLeft_eq_nil h]
    rfl

def blankError (name : Text) : SettingError :=
  ⟨[name], .blankLocale⟩

def textlessError (name : Text) : SettingError :=
  ⟨[name], .unwritten .unwritable⟩

/-- What is wrong with the chosen value of a setting. -/
def refusal? (sources : List SettingSource) (name : Text) : Option SettingError :=
  if BlankIn sources name then some (blankError name)
  else if TextlessIn sources name then some (textlessError name)
  else none

section
variable {sources : List SettingSource} {name : Text}

theorem localeOf_of_blankIn (h : BlankIn sources name) :
    localeOf sources name = .error (blankError name) := by
  obtain ⟨value, text, hvalue, htext, hblank⟩ := h
  simp only [localeOf, localeFrom, valueOf?_eq_some_iff.mpr hvalue, htext,
    if_pos (trim_eq_nil_iff.mpr hblank)]
  rfl

theorem localeOf_of_textlessIn (h : TextlessIn sources name) :
    localeOf sources name = .error (textlessError name) := by
  obtain ⟨value, hvalue, htextless⟩ := h
  simp only [localeOf, localeFrom, valueOf?_eq_some_iff.mpr hvalue, value.toText_eq,
    if_neg htextless]
  rfl

theorem localeOf_of_refusal? {e : SettingError} (h : refusal? sources name = some e) :
    localeOf sources name = .error e := by
  rw [refusal?] at h
  split at h
  · rename_i hblank
    cases h
    exact localeOf_of_blankIn hblank
  · split at h
    · rename_i htextless
      cases h
      exact localeOf_of_textlessIn htextless
    · cases h

theorem refusal?_eq_none_iff :
    refusal? sources name = none ↔ ¬ BlankIn sources name ∧ ¬ TextlessIn sources name := by
  rw [refusal?]
  by_cases hblank : BlankIn sources name
  · simp [hblank]
  · by_cases htextless : TextlessIn sources name <;> simp [hblank, htextless]

theorem exists_locale (h : refusal? sources name = none) :
    ∃ locale, localeOf sources name = .ok locale ∧ Settles sources name locale := by
  obtain ⟨hblank, htextless⟩ := refusal?_eq_none_iff.mp h
  cases hvalue : valueOf? sources name with
  | none =>
    refine ⟨"en".toList, by rw [localeOf, hvalue], ?_⟩
    exact {
      stripped := by
        intro value hchosen
        rw [valueOf?_eq_some_iff.mpr hchosen] at hvalue
        cases hvalue
      builtIn := fun _ => rfl
      ne_nil := by decide
      trimmed := trimmed_trim "en".toList }
  | some value =>
    have hchosen := valueOf?_eq_some_iff.mp hvalue
    have hhas : value.HasText := Decidable.not_not.mp fun hnone => htextless ⟨value, hchosen, hnone⟩
    have htext : value.toText = .ok value.shown := Value.toText_eq_ok_iff.mpr ⟨hhas, rfl⟩
    have hsolid : trim value.shown ≠ [] := by
      intro hnil
      exact hblank ⟨value, value.shown, hchosen, htext, trim_eq_nil_iff.mp hnil⟩
    refine ⟨trim value.shown, ?_, ?_⟩
    · simp only [localeOf, localeFrom, hvalue, htext, if_neg hsolid]
    exact {
      stripped := by
        intro other hother
        rw [valueOf?_eq_some_iff.mpr hother] at hvalue
        cases hvalue
        obtain ⟨before, after, hbefore, hafter, hsplit⟩ := exists_blanks_around value.shown
        exact ⟨before, after, hbefore, hafter, htext.trans (congrArg Except.ok hsplit)⟩
      builtIn := by
        intro hnone
        rw [valueOf?, List.findSome?_eq_none_iff.mpr hnone] at hvalue
        cases hvalue
      ne_nil := hsolid
      trimmed := trimmed_trim value.shown }

end

/-! ## Both locales -/

def localeNames : List Text :=
  [defaultLocaleName, fallbackLocaleName]

/-- What is wrong with the locales of some sources. -/
def refusals (sources : List SettingSource) : List SettingError :=
  localeNames.filterMap (refusal? sources)

theorem build_of_refusals {sources : List SettingSource} (h : refusals sources ≠ []) :
    LocaleSettings.build sources = .error (refusals sources) := by
  cases hdefault : refusal? sources defaultLocaleName with
  | some first =>
    cases hfallback : refusal? sources fallbackLocaleName with
    | some second =>
      rw [LocaleSettings.build, localeOf_of_refusal? hdefault, localeOf_of_refusal? hfallback]
      simp [refusals, localeNames, hdefault, hfallback, both]
    | none =>
      obtain ⟨fallback, hlocale, _⟩ := exists_locale hfallback
      rw [LocaleSettings.build, localeOf_of_refusal? hdefault, hlocale]
      simp [refusals, localeNames, hdefault, hfallback, both]
  | none =>
    obtain ⟨default, hlocale, _⟩ := exists_locale hdefault
    cases hfallback : refusal? sources fallbackLocaleName with
    | some second =>
      rw [LocaleSettings.build, hlocale, localeOf_of_refusal? hfallback]
      simp [refusals, localeNames, hdefault, hfallback, both]
    | none => simp [refusals, localeNames, hdefault, hfallback] at h

theorem build_of_no_refusal {sources : List SettingSource} (h : refusals sources = []) :
    ∃ settings, LocaleSettings.build sources = .ok settings ∧
      Settles sources defaultLocaleName settings.defaultLocale ∧
      Settles sources fallbackLocaleName settings.fallbackLocale := by
  have hnone := List.filterMap_eq_nil_iff.mp h
  obtain ⟨default, hdefaultLocale, hdefaultSettles⟩ := exists_locale (hnone defaultLocaleName (by
    simp [localeNames]))
  obtain ⟨fallback, hfallbackLocale, hfallbackSettles⟩ := exists_locale (hnone fallbackLocaleName (by
    simp [localeNames]))
  refine ⟨⟨default, fallback⟩, ?_, hdefaultSettles, hfallbackSettles⟩
  rw [LocaleSettings.build, hdefaultLocale, hfallbackLocale]
  rfl

/-- Where every chosen value has a text, only blank ones are refused. -/
theorem filterMap_refusal? {sources : List SettingSource} {names : List Text}
    (h : ∀ name ∈ names, ¬ TextlessIn sources name) :
    names.filterMap (refusal? sources) =
      (names.filter fun name => BlankIn sources name).map blankError := by
  induction names with
  | nil => rfl
  | cons name rest ih =>
    have htextless := h name List.mem_cons_self
    have hrest := ih fun other hother => h other (List.mem_cons_of_mem name hother)
    by_cases hblank : BlankIn sources name <;> simp [refusal?, hblank, htextless, hrest]

/-- **Blank values are refused, and nothing else is that has a text.** Of the arguments, the
environment and a file, each locale takes the value of the first one that has it. If the text of such a
value is blank, or there is none, the errors are those of exactly the settings for which it is so, in
their order. Otherwise each locale is the text of its value without the blanks around it, or the
built-in one. A blank value is not made good by a weaker source. -/
theorem build_chosen (arguments environment file : SettingSource) :
    let sources := [arguments, environment, file]
    (refusals sources ≠ [] → LocaleSettings.build sources = .error (refusals sources)) ∧
    (refusals sources = [] → ∃ settings, LocaleSettings.build sources = .ok settings ∧
      Settles sources defaultLocaleName settings.defaultLocale ∧
      Settles sources fallbackLocaleName settings.fallbackLocale) ∧
    ((∀ name ∈ localeNames, ¬ TextlessIn sources name) →
      refusals sources = (localeNames.filter fun name => BlankIn sources name).map blankError) ∧
    ∀ name ∈ localeNames, ∀ value text, value.toText = .ok text → AllBlank text →
      (arguments.lookup name = some value ∨
        arguments.lookup name = none ∧ environment.lookup name = some value) →
      blankError name ∈ refusals sources := by
  intro sources
  refine ⟨build_of_refusals, build_of_no_refusal, filterMap_refusal?, ?_⟩
  intro name hname value text htext hvalue hstrong
  have hchosen : Chosen sources name value := by
    rcases hstrong with hargument | ⟨hnone, henvironment⟩
    · exact ⟨[], arguments, _, rfl, hargument, by simp⟩
    · exact ⟨[arguments], environment, _, rfl, henvironment, by simpa using hnone⟩
  have hblank : BlankIn sources name := ⟨value, text, hchosen, htext, hvalue⟩
  exact List.mem_filterMap.mpr ⟨name, hname, if_pos hblank⟩

/-- The environment has a value for either locale. They are taken where there are no arguments, and a
blank argument hides one of them. -/
theorem build_chosen_blankArgument :
    let arguments : SettingSource := [(fallbackLocaleName, .text "  ".toList)]
    let environment := ofEnvironment
      [(defaultLocaleName, " fr ".toList), (fallbackLocaleName, "de".toList)]
    LocaleSettings.build [arguments, environment, []] = .error [blankError fallbackLocaleName] ∧
      LocaleSettings.build [[], environment, []] = .ok ⟨"fr".toList, "de".toList⟩ ∧
      Chosen [[], environment, []] defaultLocaleName (.text " fr ".toList) ∧
      Settles [[], environment, []] defaultLocaleName "fr".toList := by
  intro arguments environment
  have hblank : refusals [arguments, environment, []] = [blankError fallbackLocaleName] := by
    decide
  have hrefused := (build_chosen arguments environment []).1
  rw [hblank] at hrefused
  have hnone : refusals [[], environment, []] = [] := by decide
  have hvalue : LocaleSettings.build [[], environment, []] = .ok ⟨"fr".toList, "de".toList⟩ := rfl
  obtain ⟨settings, hsettings, hdefault, _⟩ := (build_chosen [] environment []).2.1 hnone
  rw [hvalue] at hsettings
  cases hsettings
  exact ⟨hrefused (List.cons_ne_nil _ _), hvalue, ⟨[[]], environment, [[]], rfl, rfl, by simp⟩,
    hdefault⟩

end Settings
end Phrasebook
