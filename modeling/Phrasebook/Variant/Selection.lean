import Phrasebook.Interval.Parser
import Phrasebook.Log.Event
import Phrasebook.Plural.Locales
import Phrasebook.Variant.Segment

/-!
# Phrasebook.Variant.Selection

Choosing the variant of a message for a count. A variant that starts with an interval is guarded by
it; the first guarded variant whose interval contains the count is chosen. If there is none, the
plural form of the locale picks one of the variants without a guard.

The choice is a value of its own, `Selection`: the text to show and what a log is told are read off
it. A choice that a log is told of fails if the log cannot write the count.
-/

namespace Phrasebook

/-- A variant of a message. -/
inductive Variant where
  | guarded (interval : Interval) (text : Text)
  | standard (text : Text)
deriving DecidableEq, Repr

namespace Variant

/-- The variant that a segment denotes. -/
def ofSegment (segment : Text) : Except Numeral.IntegerError Variant :=
  match Interval.parsePrefix? segment with
  | .error e => .error e
  | .ok (some (interval, rest)) => .ok (.guarded interval rest)
  | .ok none => .ok (.standard (stripLabel segment))

/-- What the guards of a message decide: the text of the first variant whose guard contains the
count, or all the standard variants. -/
inductive Guarding where
  | held (text : Text)
  | standard (variants : List Text)
deriving DecidableEq, Repr

/-- The decision of the guards. The segments after a guard that holds are not looked at. -/
def guarding (count : Int) : List Text → Except Numeral.IntegerError Guarding
  | [] => .ok (.standard [])
  | segment :: rest =>
    match ofSegment segment with
    | .error e => .error e
    | .ok (.guarded interval text) =>
      if interval.contains count then .ok (.held (Text.trim text)) else guarding count rest
    | .ok (.standard text) =>
      match guarding count rest with
      | .error e => .error e
      | .ok (.held other) => .ok (.held other)
      | .ok (.standard variants) => .ok (.standard (text :: variants))

/-- The choice of a variant, with the text to show. -/
inductive Selection where
  /-- A guard contains the count. -/
  | guarded (text : Text)
  /-- The variant of the plural form. -/
  | standard (text : Text)
  /-- The plural form has no variant, so the first one stands in. -/
  | formMissing (text : Text) (position variants : Nat)
  /-- All variants are guarded and no guard contains the count: the message as it is. -/
  | unmatched (text : Text)
deriving DecidableEq, Repr

namespace Selection

def text : Selection → Text
  | guarded text => text
  | standard text => text
  | formMissing text _ _ => text
  | unmatched text => text

/-- What a log is told about a choice. -/
def events (count : Int) (locale : Text) : Selection → List Log.Event
  | guarded _ => []
  | standard _ => []
  | formMissing _ position variants => [.pluralVariantMissing count locale position variants]
  | unmatched _ => [.noVariantMatched count locale]

end Selection

/-- The choice among variants without guards. -/
def standardSelection (message : Text) (count : Int) (locale : Text) : List Text → Selection
  | [] => .unmatched (Text.trim message)
  | first :: rest =>
    let position := Plural.position count locale
    match (first :: rest)[position]? with
    | some text => .standard text
    | none => .formMissing first position (rest.length + 1)

/-- The choice of a variant for a count in a locale. -/
def choose (message : Text) (count : Int) (locale : Text) :
    Except Numeral.IntegerError Selection :=
  match guarding count (segments message) with
  | .error e => .error e
  | .ok (.held text) => .ok (.guarded text)
  | .ok (.standard variants) =>
    let selection := standardSelection message count locale variants
    (Log.writeAll (selection.events count locale)).map fun _ => selection

end Variant
end Phrasebook
