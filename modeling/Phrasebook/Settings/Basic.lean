import Phrasebook.Json
import Phrasebook.Settings.VariableFile

/-!
# Phrasebook.Settings.Basic

Settings are read from several sources: arguments, the environment, and a file of variables. A
setting takes its value from the first source that has one, in this order, even if that value turns
out to be unusable.

* `LocaleSettings`: the default locale and the fallback locale. Any value is taken by its text,
  without the blanks around it; it has to have one, and nothing may be left blank.
* `Settings`: the locales, the stage that the program runs in, which is empty in production, and the
  level of the log. These two have to be texts.

There may also be one setting for the locales as a whole, a mapping. Among the arguments, its entries
are the strongest source of locale settings, over those of the environment and the file. These two have
to write it in JSON, also where it is not used as the locales are known by then.
-/

namespace Phrasebook

/-- A source of settings: the values that it has for their names. -/
abbrev SettingSource := List (Text × Value)

/-- A setting that has no usable value. -/
inductive SettingFault where
  | blankLocale
  /-- The value for a locale has no text. -/
  | unwritten (error : Numeral.IntegerError)
  | notText
  /-- The locales as a whole are no mapping. -/
  | notMapping
deriving DecidableEq, Repr

namespace SettingFault

def kind : SettingFault → String
  | blankLocale => "value_error"
  | unwritten _ => "value_error"
  | notText => "string_type"
  | notMapping => "model_type"

def message : SettingFault → String
  | blankLocale => "Value error, Locale code must not be empty"
  | unwritten error => "Value error, " ++ String.ofList error.message
  | notText => "Input should be a valid string"
  | notMapping => "Input should be a valid dictionary or instance of I18nSettings"

end SettingFault

/-- A fault and the setting that has it, after the name of the setting that it is a part of. -/
structure SettingError where
  path : List Text
  fault : SettingFault
deriving DecidableEq, Repr

namespace Settings

def defaultLocaleName : Text := "I18N_DEFAULT_LOCALE".toList

def fallbackLocaleName : Text := "I18N_FALLBACK_LOCALE".toList

def stageName : Text := "PREFIX".toList

def logLevelName : Text := "LOG_LEVEL".toList

def localesName : Text := "i18n".toList

/-! ## Sources -/

/-- The sources that are weaker than arguments. -/
inductive WeakSource where
  | environment
  | file
deriving DecidableEq, Repr

def WeakSource.name : WeakSource → String
  | environment => "EnvSettingsSource"
  | file => "DotEnvSettingsSource"

/-- The variables of an environment as a source of settings. -/
def ofEnvironment (environment : List (Text × Text)) : SettingSource :=
  environment.map fun (name, value) => (name, .text value)

/-- The variables of a file as a source of settings, where their values may refer to an environment.
-/
def ofFile (environment : List (Text × Text)) (file : Text) : SettingSource :=
  (VariableFile.assignments environment file).entries.filterMap fun (name, value) =>
    value.map fun t => (name, .text t)

/-- The value of the first source that has one. -/
def valueOf? (sources : List SettingSource) (name : Text) : Option Value :=
  sources.findSome? (·.lookup name)

/-! ## Settings -/

/-- The locale that a value names. -/
def localeFrom (value : Value) : Except SettingFault Text :=
  match value.toText with
  | .error e => .error (.unwritten e)
  | .ok t => if Text.trim t = [] then .error .blankLocale else .ok (Text.trim t)

/-- A locale that is set, or the built-in one. -/
def localeOf (sources : List SettingSource) (name : Text) : Except SettingError Text :=
  match valueOf? sources name with
  | none => .ok "en".toList
  | some value =>
    match localeFrom value with
    | .error fault => .error ⟨[name], fault⟩
    | .ok locale => .ok locale

/-- A text that is set, or the given one. -/
def textOf (sources : List SettingSource) (name default : Text) : Except SettingError Text :=
  match valueOf? sources name with
  | none => .ok default
  | some (.text t) => .ok t
  | some _ => .error ⟨[name], .notText⟩

/-- Both results, or the errors of all that fail. -/
def both {α β : Type} (first : Except SettingError α) (second : Except SettingError β) :
    Except (List SettingError) (α × β) :=
  match first, second with
  | .ok a, .ok b => .ok (a, b)
  | .ok _, .error e => .error [e]
  | .error e, .ok _ => .error [e]
  | .error e, .error f => .error [e, f]

end Settings

structure LocaleSettings where
  defaultLocale : Text
  fallbackLocale : Text
deriving DecidableEq, Repr

/-- The locale settings of some sources, the strongest in front. -/
def LocaleSettings.build (sources : List SettingSource) :
    Except (List SettingError) LocaleSettings :=
  match Settings.both (Settings.localeOf sources Settings.defaultLocaleName)
      (Settings.localeOf sources Settings.fallbackLocaleName) with
  | .ok (defaultLocale, fallbackLocale) => .ok ⟨defaultLocale, fallbackLocale⟩
  | .error errors => .error errors

structure Settings where
  stage : Text
  logLevel : Text
  locales : LocaleSettings
deriving DecidableEq, Repr

namespace Settings

/-- The stage of production has no name. -/
def isProduction (settings : Settings) : Bool :=
  settings.stage = []

/-- Why there are no settings. -/
inductive Refusal where
  | invalid (errors : List SettingError)
  /-- The setting for the locales as a whole cannot be read. -/
  | unreadable (source : WeakSource)
deriving DecidableEq, Repr

/-- The message about a setting for the locales as a whole that cannot be read. -/
def unreadableMessage (source : WeakSource) : Text :=
  "error parsing value for field \"".toList ++ localesName ++ "\" from source \"".toList ++
    source.name.toList ++ "\"".toList

/-- What a weak source has for the locales as a whole, null if it has nothing. -/
def wholeOf? (source : SettingSource) : Option Value :=
  match source.lookup localesName with
  | some (.text t) => Json.read? t
  | _ => some .null

/-- The locale settings of a value for the locales as a whole and of weaker sources. -/
def wholeLocales (whole : Value) (weaker : List SettingSource) :
    Except (List SettingError) LocaleSettings :=
  match whole with
  | .mapping entries =>
    match LocaleSettings.build (entries.map (fun (key, v) => (key.toText, v)) :: weaker) with
    | .ok locales => .ok locales
    | .error errors => .error (errors.map fun e => { e with path := localesName :: e.path })
  | _ => .error [⟨[localesName], .notMapping⟩]

/-- How the locales are given. -/
inductive LocaleArguments where
  /-- By arguments of their own, from which the locale settings are built first. -/
  | own (arguments : SettingSource)
  /-- As a whole. -/
  | whole (v : Value)

/-- How the locales are given by arguments of their own, if there are any, and the other arguments. -/
def LocaleArguments.of (own : Option SettingSource) (arguments : SettingSource) : LocaleArguments :=
  match own, arguments.lookup localesName with
  | some own, _ => .own own
  | none, some v => .whole v
  | none, none => .own []

/-- The results of three parts, or the errors of all that fail. -/
def gather (stage logLevel : Except SettingError Text)
    (locales : Except (List SettingError) LocaleSettings) : Except Refusal Settings :=
  match both stage logLevel, locales with
  | .ok (stage, logLevel), .ok locales => .ok ⟨stage, logLevel, locales⟩
  | .ok _, .error errors => .error (.invalid errors)
  | .error errors, .ok _ => .error (.invalid errors)
  | .error errors, .error more => .error (.invalid (errors ++ more))

/-- The settings of arguments, the environment and a file, for locales that are found when it is known
what the environment and the file have for them as a whole. -/
def buildWith (arguments environment file : SettingSource)
    (locales : Value → Value → Except (List SettingError) LocaleSettings) :
    Except Refusal Settings :=
  match wholeOf? environment, wholeOf? file with
  | none, _ => .error (.unreadable .environment)
  | _, none => .error (.unreadable .file)
  | some ofEnvironment, some ofFile =>
    gather (textOf [arguments, environment, file] stageName [])
      (textOf [arguments, environment, file] logLevelName "INFO".toList)
      (locales ofEnvironment ofFile)

/-- The settings of arguments, the environment and a file. -/
def build (arguments : SettingSource) (locales : LocaleArguments)
    (environment file : SettingSource) : Except Refusal Settings :=
  match locales with
  | .own own =>
    match LocaleSettings.build [own, environment, file] with
    | .error errors => .error (.invalid errors)
    | .ok locales => buildWith arguments environment file fun _ _ => .ok locales
  | .whole v =>
    buildWith arguments environment file fun ofEnvironment ofFile =>
      wholeLocales (ofFile.overlay (ofEnvironment.overlay v)) [environment, file]

/-- The settings when nothing is set. -/
def builtIn : Settings :=
  ⟨[], "INFO".toList, ⟨"en".toList, "en".toList⟩⟩

end Settings
end Phrasebook
