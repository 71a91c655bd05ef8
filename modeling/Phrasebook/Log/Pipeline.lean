import Phrasebook.Log.Event
import Phrasebook.Settings.Basic
import Phrasebook.Text.Case

/-!
# Phrasebook.Log.Pipeline

The way of a record from a logger to the log. A renderer makes a line of it, and the root logger has a
threshold, and lets records pass whose severity reaches it. Before the first configuration there is no
renderer, and nothing is written. The threshold is set by the first configuration only, the renderer by
every one.
-/

namespace Phrasebook
namespace Log

inductive Renderer where
  | json
  | console
deriving DecidableEq, Repr

def Renderer.name : Renderer → String
  | json => "json"
  | console => "console"

structure Pipeline where
  renderer : Option Renderer
  threshold : Nat
  hasHandler : Bool
deriving DecidableEq, Repr

/-! ## Thresholds -/

/-- Words for the threshold that name something else than a level. -/
inductive ThresholdFault where
  /-- The word for the format of lines. -/
  | lineFormat
  /-- The word for the styles of formats. -/
  | formatStyles
deriving DecidableEq, Repr

def ThresholdFault.message : ThresholdFault → Text
  | lineFormat => "Unknown level: '%(levelname)s:%(name)s:%(message)s'".toList
  | formatStyles =>
    ("Level not an integer or a valid string: " ++
      "\x7b'%': (<class 'logging.PercentStyle'>, '%(levelname)s:%(name)s:%(message)s'), " ++
      "'\x7b': (<class 'logging.StrFormatStyle'>, " ++
      "'\x7blevelname\x7d:\x7bname\x7d:\x7bmessage\x7d'), " ++
      "'$': (<class 'logging.StringTemplateStyle'>, " ++
      "'$\x7blevelname\x7d:$\x7bname\x7d:$\x7bmessage\x7d')\x7d").toList

/-- The names of the levels. -/
def levelNames : List (String × Nat) :=
  [("CRITICAL", 50), ("FATAL", 50), ("ERROR", 40), ("WARNING", 30), ("WARN", 30), ("INFO", 20),
   ("DEBUG", 10), ("NOTSET", 0)]

/-- The names of what is no level. -/
def otherNames : List (String × ThresholdFault) :=
  [("BASIC_FORMAT", .lineFormat), ("_STYLES", .formatStyles)]

/-- The threshold that a word stands for, case ignored; an unknown word stands for that of
information. -/
def thresholdOf (word : Text) : Except ThresholdFault Nat :=
  let name := String.ofList (Text.upper word)
  match otherNames.lookup name with
  | some fault => .error fault
  | none => .ok ((levelNames.lookup name).getD Severity.info.level)

namespace Pipeline

/-- The pipeline before any configuration. -/
def initial : Pipeline :=
  ⟨none, Severity.warning.level, false⟩

/-- The word for the threshold: the one that is asked for, or else that of the settings. -/
def thresholdWord (settings : Settings) (logLevel : Text) : Text :=
  if logLevel = [] then settings.logLevel else logLevel

/-- The renderer for production and for development. -/
def rendererFor (settings : Settings) (isProduction : Option Bool) : Renderer :=
  if isProduction.getD settings.isProduction then .json else .console

/-- A configuration: the pipeline afterwards, the renderer that was chosen, and why the threshold
could not be set. -/
structure Configured where
  pipeline : Pipeline
  renderer : Renderer
  fault : Option ThresholdFault
deriving DecidableEq, Repr

/-- Configures the pipeline. Without a handler it gets one, and its threshold. -/
def configure (pipeline : Pipeline) (settings : Settings) (logLevel : Text)
    (isProduction : Option Bool) : Configured :=
  let renderer := rendererFor settings isProduction
  if pipeline.hasHandler then
    ⟨{ pipeline with renderer := some renderer }, renderer, none⟩
  else
    match thresholdOf (thresholdWord settings logLevel) with
    | .ok n => ⟨⟨some renderer, n, true⟩, renderer, none⟩
    | .error fault => ⟨⟨some renderer, pipeline.threshold, true⟩, renderer, some fault⟩

/-- Whether records of a severity are written. -/
def passes (pipeline : Pipeline) (severity : Severity) : Bool :=
  pipeline.renderer.isSome && pipeline.threshold ≤ severity.level

end Pipeline
end Log
end Phrasebook
