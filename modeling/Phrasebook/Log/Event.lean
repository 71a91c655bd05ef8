import Phrasebook.Numeral.Integer

/-!
# Phrasebook.Log.Event

What the library tells a log. Every event has a constructor; the component that it comes from, its
severity, its name and its fields are read off it.

A log writes every event before it looks at thresholds, and whoever tells it of an event that it cannot
write gets the error: `writeAll`. Only a count can be too long for that (`written_eq`).
-/

namespace Phrasebook
namespace Log

inductive Severity where
  | debug
  | info
  | warning
  | error
  | critical
deriving DecidableEq, Repr

namespace Severity

def name : Severity → String
  | debug => "debug"
  | info => "info"
  | warning => "warning"
  | error => "error"
  | critical => "critical"

/-- The level that a logger's threshold is compared with. -/
def level : Severity → Nat
  | debug => 10
  | info => 20
  | warning => 30
  | error => 40
  | critical => 50

/-- Other words for a severity. -/
def otherWords : List (String × Severity) :=
  [("warn", warning), ("fatal", critical), ("exception", error)]

/-- The severity that a word stands for. -/
def ofWord? (word : String) : Option Severity :=
  ([debug, info, warning, error, critical].find? fun severity => severity.name == word).or
    (otherWords.lookup word)

end Severity

/-- The parts of the library that report events. -/
inductive Component where
  | intervals
  | selector
  | resolvers
  | translator
deriving DecidableEq, Repr

def Component.name : Component → String
  | intervals => "intervals"
  | selector => "selector"
  | resolvers => "resolvers"
  | translator => "translator"

inductive Event where
  | intervalParseFailed (interval : Text) (position : Nat) (reason : Text)
  | noVariantMatched (count : Int) (locale : Text)
  | pluralVariantMissing (count : Int) (locale : Text) (position variants : Nat)
  | resolvedFromEnvironment (defaultLocale variableName locale : Text)
  | noLocaleInEnvironment (defaultLocale : Text)
  | resolvedFromHeader (defaultLocale locale : Text)
  | noMatchingLocaleInHeader (defaultLocale header : Text)
  | catalogAdded (locale : Text) (messages : Nat)
  | initializedTranslator (locale fallback : Text) (locales : Nat)
  | usedFallback (key requested fallback : Text)
  | messageNotFound (key locale fallback : Text)
deriving DecidableEq, Repr

/-- The value of a field. Sizes are positions in a text and numbers of things that are held. -/
inductive Field where
  | text (t : Text)
  | size (n : Nat)
  | integer (n : Int)
deriving DecidableEq, Repr

def Field.written : Field → Except Numeral.IntegerError Text
  | text t => .ok t
  | size n => .ok (Numeral.decimal n)
  | integer n => Numeral.writeInteger n

namespace Event

def component : Event → Component
  | intervalParseFailed .. => .intervals
  | noVariantMatched .. | pluralVariantMissing .. => .selector
  | resolvedFromEnvironment .. | noLocaleInEnvironment .. | resolvedFromHeader ..
  | noMatchingLocaleInHeader .. => .resolvers
  | catalogAdded .. | initializedTranslator .. | usedFallback ..
  | messageNotFound .. => .translator

def severity : Event → Severity
  | intervalParseFailed .. | messageNotFound .. => .warning
  | catalogAdded .. | initializedTranslator .. | usedFallback .. => .info
  | _ => .debug

def name : Event → String
  | intervalParseFailed .. => "interval_parse_failed"
  | noVariantMatched .. => "no_variant_matched"
  | pluralVariantMissing .. => "plural_variant_missing"
  | resolvedFromEnvironment .. => "resolved_from_environment"
  | noLocaleInEnvironment .. => "no_locale_in_environment"
  | resolvedFromHeader .. => "resolved_from_header"
  | noMatchingLocaleInHeader .. => "no_matching_locale_in_header"
  | catalogAdded .. => "catalog_added"
  | initializedTranslator .. => "initialized_translator"
  | usedFallback .. => "used_fallback_translation"
  | messageNotFound .. => "translation_not_found"

def fields : Event → List (String × Field)
  | intervalParseFailed interval position reason =>
    [("interval", .text interval), ("position", .size position), ("reason", .text reason)]
  | noVariantMatched count locale => [("count", .integer count), ("locale", .text locale)]
  | pluralVariantMissing count locale position variants =>
    [("count", .integer count), ("locale", .text locale), ("position", .size position),
     ("variant_count", .size variants)]
  | resolvedFromEnvironment defaultLocale variableName locale =>
    [("default_locale", .text defaultLocale), ("variable", .text variableName),
     ("locale", .text locale)]
  | noLocaleInEnvironment defaultLocale => [("default_locale", .text defaultLocale)]
  | resolvedFromHeader defaultLocale locale =>
    [("default_locale", .text defaultLocale), ("locale", .text locale)]
  | noMatchingLocaleInHeader defaultLocale header =>
    [("default_locale", .text defaultLocale), ("header", .text header)]
  | catalogAdded locale messages =>
    [("locale", .text locale), ("message_count", .size messages)]
  | initializedTranslator locale fallback locales =>
    [("locale", .text locale), ("fallback_locale", .text fallback),
     ("locale_count", .size locales)]
  | usedFallback key requested fallback =>
    [("key", .text key), ("requested_locale", .text requested),
     ("fallback_locale", .text fallback)]
  | messageNotFound key locale fallback =>
    [("key", .text key), ("locale", .text locale), ("fallback_locale", .text fallback)]

/-- The fields of an event as they are written. -/
def written (event : Event) : Except Numeral.IntegerError (List (String × Text)) :=
  event.fields.mapM fun field => field.2.written.map (field.1, ·)

/-- The count that an event tells. -/
def count? : Event → Option Int
  | noVariantMatched count _ => some count
  | pluralVariantMissing count _ _ _ => some count
  | _ => none

/-- Nothing but a count can be too long to be written. -/
theorem written_eq (event : Event) :
    (event.written.map fun _ => ()) =
      match event.count? with
      | some count => (Numeral.writeInteger count).map fun _ => ()
      | none => .ok () := by
  cases event with
  | noVariantMatched count locale =>
    simp only [written, fields, List.mapM_cons, Field.written, count?]
    cases Numeral.writeInteger count <;> rfl
  | pluralVariantMissing count locale position variants =>
    simp only [written, fields, List.mapM_cons, Field.written, count?]
    cases Numeral.writeInteger count <;> rfl
  | _ => rfl

end Event

/-- Writes events, up to the first that cannot be written. -/
def writeAll : List Event → Except Numeral.IntegerError Unit
  | [] => .ok ()
  | event :: rest =>
    match event.written.map fun _ => () with
    | .error e => .error e
    | .ok () => writeAll rest

theorem writeAll_singleton (event : Event) :
    writeAll [event] =
      match event.count? with
      | some count => (Numeral.writeInteger count).map fun _ => ()
      | none => .ok () := by
  rw [← event.written_eq, writeAll]
  cases event.written <;> rfl

end Log
end Phrasebook
