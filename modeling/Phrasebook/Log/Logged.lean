import Phrasebook.Log.Event

/-!
# Phrasebook.Log.Logged

A result together with the events that were reported on the way to it. The events are there also
when the result is an error.
-/

namespace Phrasebook
namespace Log

structure Logged (α : Type) where
  result : α
  events : List Event
deriving Repr

end Log
end Phrasebook
