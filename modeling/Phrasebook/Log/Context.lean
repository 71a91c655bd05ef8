import Phrasebook.Text.Basic

/-!
# Phrasebook.Log.Context

What a logger puts into every record: the name of the logger, or the component that it belongs to.
-/

namespace Phrasebook
namespace Log

/-- The name of a logger whose module is not known. -/
def unknownName : Text := "unknown".toList

/-- The part of a module's name after the last point. -/
def componentOf (module : Text) : Text :=
  (module.reverse.takeWhile (· != '.')).reverse

/-- The context of a logger for a module. -/
def moduleContext (module : Text) : List (Text × Text) :=
  [("component".toList, componentOf module), ("module_path".toList, module)]

/-- Loggers are known by a name or by the module that asks for one. -/
inductive Logger where
  | named (name : Text)
  | ofModule
deriving DecidableEq, Repr

/-- The context of a logger that is asked for in module `caller`, if it is known. A logger with an
empty name has the name of the module. -/
def Logger.context (caller : Option Text) : Logger → List (Text × Text)
  | named name =>
    if name = [] then [("logger_name".toList, caller.getD unknownName)]
    else [("logger_name".toList, name)]
  | ofModule =>
    match caller with
    | some module => moduleContext module
    | none => [("component".toList, unknownName)]

end Log
end Phrasebook
