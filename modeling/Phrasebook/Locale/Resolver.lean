import Phrasebook.Locale.Negotiation
import Phrasebook.Locale.Preference
import Phrasebook.Log.Event

/-!
# Phrasebook.Locale.Resolver

Finding the locale to use from the environment or from a header, with a default for the case that
neither names one. What was found is a value of its own; the locale and what a log is told are read
off it.
-/

namespace Phrasebook
namespace Locale

/-- The locale that is used when nothing else is said. -/
def builtInDefault : Text := "en".toList

/-- A resolver knows the locale to fall back on. -/
structure Resolver where
  defaultLocale : Text
deriving DecidableEq, Repr

/-- The resolver for a default locale, which may be left out. -/
def Resolver.ofDefault (locale : Text) : Resolver :=
  ⟨if locale = [] then builtInDefault else locale⟩

theorem defaultLocale_ofDefault_ne_nil (locale : Text) :
    (Resolver.ofDefault locale).defaultLocale ≠ [] := by
  simp only [Resolver.ofDefault]
  split
  · decide
  · assumption

/-! ## The environment -/

/-- The variables that name a locale. -/
inductive Variable where
  | lcAll
  | lcMessages
  | lang
  | language
deriving DecidableEq, Repr

def Variable.name : Variable → String
  | lcAll => "LC_ALL"
  | lcMessages => "LC_MESSAGES"
  | lang => "LANG"
  | language => "LANGUAGE"

/-- The variables, the one that is asked first in front. -/
def Variable.inOrder : List Variable :=
  [lcAll, lcMessages, lang, language]

/-- Language codes that stand for no language. -/
def isNeutral (language : Text) : Bool :=
  language = "c".toList || language = "posix".toList

/-- The language that the value of a variable names: its first item counts. -/
def languageOf? (value : Text) : Option Text :=
  let language := normalize (value.takeWhile (· != ':'))
  if language = [] || isNeutral language then none else some language

/-- What an environment says about the locale. -/
inductive EnvironmentFinding where
  | found (source : Variable) (language : Text)
  | nothing
deriving DecidableEq, Repr

namespace EnvironmentFinding

def locale (resolver : Resolver) : EnvironmentFinding → Text
  | found _ language => language
  | nothing => resolver.defaultLocale

def events (resolver : Resolver) : EnvironmentFinding → List Log.Event
  | found source language =>
    [.resolvedFromEnvironment resolver.defaultLocale source.name.toList language]
  | nothing => [.noLocaleInEnvironment resolver.defaultLocale]

end EnvironmentFinding

/-- What the given variables say about the locale; `environment` has their values. -/
def searchEnvironment (environment : Variable → Option Text) :
    List Variable → EnvironmentFinding
  | [] => .nothing
  | source :: rest =>
    match (environment source).bind languageOf? with
    | some language => .found source language
    | none => searchEnvironment environment rest

/-- What an environment says about the locale. -/
def findInEnvironment (environment : Variable → Option Text) : EnvironmentFinding :=
  searchEnvironment environment Variable.inOrder

/-! ## The header -/

/-- What a header says about the locale. -/
inductive HeaderFinding where
  /-- No header, or no language in it and no locales to choose from. -/
  | nothing
  /-- The language of the first range, where there are no locales to choose from. -/
  | preferred (language : Text)
  /-- The locale that was chosen. -/
  | chosen (locale : Text)
  /-- None of the locales suits the header. -/
  | unsuited (header : Text)
deriving DecidableEq, Repr

namespace HeaderFinding

def locale (resolver : Resolver) : HeaderFinding → Text
  | nothing => resolver.defaultLocale
  | preferred language => language
  | chosen locale => locale
  | unsuited _ => resolver.defaultLocale

def events (resolver : Resolver) : HeaderFinding → List Log.Event
  | nothing => []
  | preferred _ => []
  | chosen locale => [.resolvedFromHeader resolver.defaultLocale locale]
  | unsuited header => [.noMatchingLocaleInHeader resolver.defaultLocale header]

end HeaderFinding

/-- The range that stands for any language. -/
def anyLanguage : Text := ['*']

/-- The ranges of a header by falling quality. -/
def rankedRanges (header : Text) : List Text :=
  (ranked (parseHeader header)).map (·.range)

/-- What a header says about the locale, where only the `supported` locales may be chosen if they
are given. -/
def findInHeader (header : Text) (supported : Option (List Text)) : HeaderFinding :=
  if header = [] then .nothing
  else
    match supported with
    | none =>
      match (rankedRanges header).find? (· ≠ anyLanguage) with
      | some range => .preferred (normalize range)
      | none => .nothing
    | some locales =>
      match bestMatch? (rankedRanges header) locales with
      | some locale => .chosen locale
      | none => .unsuited header

/-- The locale of an environment. -/
def Resolver.fromEnvironment (resolver : Resolver) (environment : Variable → Option Text) : Text :=
  (findInEnvironment environment).locale resolver

/-- The locale of a header. -/
def Resolver.fromHeader (resolver : Resolver) (header : Text) (supported : Option (List Text)) :
    Text :=
  (findInHeader header supported).locale resolver

end Locale
end Phrasebook
