import Phrasebook.Catalog.Flatten

/-!
# Phrasebook.Catalog.Basic

A catalog holds the flat messages of one locale.
-/

namespace Phrasebook

structure Catalog where
  locale : Text
  messages : Dictionary Text

namespace Catalog

def empty (locale : Text) : Catalog :=
  ⟨locale, .empty⟩

/-- The catalog of nested messages. -/
def ofNested (locale : Text) (entries : List (MapKey × Value)) : Except BadLeaf Catalog :=
  (flatten [] entries).map fun messages => ⟨locale, messages⟩

/-- The message of a key. -/
def get? (catalog : Catalog) (key : Text) : Option Text :=
  catalog.messages.get? key

def has (catalog : Catalog) (key : Text) : Bool :=
  catalog.messages.contains key

/-- The catalog with `key` mapped to `message`. -/
def set (catalog : Catalog) (key message : Text) : Catalog :=
  { catalog with messages := catalog.messages.insert key message }

/-- The catalog with the messages of another one added; those of the other win. -/
def merge (catalog other : Catalog) : Catalog :=
  { catalog with messages := catalog.messages.merge other.messages }

/-- Whether two catalogs are of one locale and map the same keys to the same messages. -/
def same (catalog other : Catalog) : Bool :=
  catalog.locale == other.locale && catalog.messages.same other.messages

@[simp]
theorem get?_set (catalog : Catalog) (key query message : Text) :
    (catalog.set key message).get? query = if query = key then some message else catalog.get? query :=
  Dictionary.get?_insert catalog.messages key query message

end Catalog
end Phrasebook
