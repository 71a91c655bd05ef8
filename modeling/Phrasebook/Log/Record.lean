import Phrasebook.Dictionary
import Phrasebook.Log.Event

/-!
# Phrasebook.Log.Record

Records as they are written. A record has the context of its logger, the fields of the call, which win
over the context, the event and the level. `get?_record_event` and `get?_record_level` say that no
field takes the place of these two.
-/

namespace Phrasebook
namespace Log

/-- The fields that a log stamps on every record itself. -/
def stamped : List Text :=
  ["timestamp".toList, "filename".toList, "lineno".toList, "func_name".toList]

/-- The fields of a call that ask for a trace. They are no part of the record. -/
def traceRequests : List Text :=
  ["exc_info".toList, "stack_info".toList]

/-- Whether a field of a call comes into the record. -/
def isKept (name : Text) : Bool :=
  !stamped.contains name && !traceRequests.contains name

def eventField : Text := "event".toList

def levelField : Text := "level".toList

/-- A record without its stamps; `ofText` makes values of texts. -/
def record {α : Type} (ofText : Text → α) (context : List (Text × Text)) (severity : Severity)
    (event : Text) (fields : List (Text × α)) : Dictionary α :=
  let entries := context.map fun (name, t) => (name, ofText t)
  ((Dictionary.ofList (entries ++ fields.filter fun field => isKept field.1)).insert eventField
    (ofText event)).insert levelField (ofText severity.name.toList)

@[simp]
theorem get?_record_event {α : Type} (ofText : Text → α) (context : List (Text × Text))
    (severity : Severity) (event : Text) (fields : List (Text × α)) :
    (record ofText context severity event fields).get? eventField = some (ofText event) := by
  rw [record, Dictionary.get?_insert, if_neg (by decide), Dictionary.get?_insert, if_pos rfl]

@[simp]
theorem get?_record_level {α : Type} (ofText : Text → α) (context : List (Text × Text))
    (severity : Severity) (event : Text) (fields : List (Text × α)) :
    (record ofText context severity event fields).get? levelField =
      some (ofText severity.name.toList) := by
  rw [record, Dictionary.get?_insert, if_pos rfl]

/-! ## Calls -/

/-- A field that has the name of an argument of the call itself. -/
structure Collision where
  severity : Severity
  name : Text
deriving DecidableEq, Repr

/-- The arguments that a call has in front of its fields. -/
def callArguments : List Text :=
  ["self".toList, eventField]

/-- The argument that is added on the way of a call to its record. -/
def innerArgument : Text := "method_name".toList

/-- The message about a collision. -/
def Collision.message (collision : Collision) : Text :=
  "BoundLogger.".toList ++
    (if collision.name = innerArgument then "_proxy_to_logger".toList
      else collision.severity.name.toList) ++
    "() got multiple values for argument '".toList ++ collision.name ++ ['\'']

/-- The collision of a call with fields of the given names, if there is one. -/
def collision? (severity : Severity) (names : List Text) : Option Collision :=
  ((names.find? callArguments.contains).or (names.find? (· = innerArgument))).map
    fun name => ⟨severity, name⟩

end Log
end Phrasebook
