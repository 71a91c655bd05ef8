import Phrasebook.Text.Basic

/-!
# Phrasebook.Catalog.Key

Keys of messages. A key names a group and the path of a message within it; its text is both, joined
by a point. `toText_of_ofText?` says that reading a key loses nothing of its text.
-/

namespace Phrasebook

/-- A key of a message. -/
structure MessageKey where
  group : Text
  path : Text
deriving DecidableEq, Repr

namespace MessageKey

def toText (key : MessageKey) : Text :=
  key.group ++ '.' :: key.path

/-- The key with the given text, cut at the first point. Neither part may be empty. -/
def ofText? (t : Text) : Option MessageKey :=
  match Text.cutFirst '.' t with
  | some (group, path) => if group = [] ∨ path = [] then none else some ⟨group, path⟩
  | none => none

/-- The message about a text that is no key. -/
def notAKeyMessage (t : Text) : Text :=
  "Translation key must be in format 'namespace.key': ".toList ++ t

theorem toText_of_ofText? {t : Text} {key : MessageKey} (h : ofText? t = some key) :
    key.toText = t := by
  simp only [ofText?] at h
  split at h
  · rename_i group path hc
    split at h
    · cases h
    · cases h
      exact (Text.cutFirst_eq_some hc).symm
  · cases h

end MessageKey
end Phrasebook
