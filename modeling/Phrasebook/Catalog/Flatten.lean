import Phrasebook.Dictionary
import Phrasebook.Value

/-!
# Phrasebook.Catalog.Flatten

Nested messages become flat ones: a message is known by its path, the texts of the keys that lead to
it joined by points. Everything in the nesting has to be a message or a mapping.

`leaves` lists the messages with their paths in the order in which they stand; `flatten` is the
dictionary made of that list, so of several messages with one path the last one counts.

`flattenByLevel` flattens from the inside out. A mapping inside another one is flattened by itself, and
what it gives is merged into the messages that are there already.
-/

namespace Phrasebook
namespace Catalog

/-- Something that is neither a message nor a mapping. -/
structure BadLeaf where
  path : Text
  kind : Text
deriving DecidableEq, Repr

def BadLeaf.message (leaf : BadLeaf) : Text :=
  "Message at '".toList ++ leaf.path ++ "' must be a string or a mapping, got ".toList ++ leaf.kind

/-- The path of a key below a path; below the empty path it is the key's own text. -/
def childPath (path : Text) (key : MapKey) : Text :=
  if path = [] then key.toText else path ++ '.' :: key.toText

mutual

/-- The messages in a value that stands at a path, with their paths. -/
def leavesAt (path : Text) : Value → Except BadLeaf (List (Text × Text))
  | .text message => .ok [(path, message)]
  | .mapping entries => leaves path entries
  | value => .error ⟨path, value.kindWord⟩

/-- The messages in a mapping that stands at a path, with their paths. -/
def leaves (path : Text) : List (MapKey × Value) → Except BadLeaf (List (Text × Text))
  | [] => .ok []
  | (key, value) :: rest =>
    match leavesAt (childPath path key) value with
    | .error e => .error e
    | .ok inner =>
      match leaves path rest with
      | .error e => .error e
      | .ok later => .ok (inner ++ later)

end

/-- The messages in a mapping as a dictionary from paths. -/
def flatten (path : Text) (entries : List (MapKey × Value)) : Except BadLeaf (Dictionary Text) :=
  (leaves path entries).map Dictionary.ofList

/-! ## Level by level -/

mutual

/-- The messages `flat` with those of a value that stands at a path. -/
def addValue (path : Text) (flat : Dictionary Text) : Value → Except BadLeaf (Dictionary Text)
  | .text message => .ok (flat.insert path message)
  | .mapping entries =>
    match addEntries path .empty entries with
    | .error leaf => .error leaf
    | .ok inner => .ok (flat.merge inner)
  | value => .error ⟨path, value.kindWord⟩

/-- The messages `flat` with those of the entries of a mapping that stands at a path. -/
def addEntries (path : Text) (flat : Dictionary Text) :
    List (MapKey × Value) → Except BadLeaf (Dictionary Text)
  | [] => .ok flat
  | (key, value) :: rest =>
    match addValue (childPath path key) flat value with
    | .error leaf => .error leaf
    | .ok next => addEntries path next rest

end

def flattenByLevel (path : Text) (entries : List (MapKey × Value)) :
    Except BadLeaf (Dictionary Text) :=
  addEntries path .empty entries

end Catalog
end Phrasebook
