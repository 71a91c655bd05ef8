import Phrasebook.Catalog.Key
import Phrasebook.Proofs.Text.Fields

/-!
# Phrasebook.Proofs.Catalog.Keys

Keys of messages and their texts. Different keys can have the same text: `a.b.c` is the text of the
path `b.c` in the group `a`, and of the path `c` in the group `a.b`. Of the keys with a given text,
reading finds the well-formed one, if there is one (`ofText?_eq_some_iff`).

`ofText?_inverse_toText` says when reading and writing undo each other.
-/

namespace Phrasebook
namespace MessageKey

/-- The group is the part of the key's text before its first point, and no part is empty. -/
structure WellFormed (key : MessageKey) : Prop where
  group_ne_nil : key.group ≠ []
  point_not_mem : '.' ∉ key.group
  path_ne_nil : key.path ≠ []

theorem ofText?_eq_some_iff {t : Text} {key : MessageKey} :
    ofText? t = some key ↔ key.WellFormed ∧ key.toText = t := by
  constructor
  · intro h
    refine ⟨?_, toText_of_ofText? h⟩
    simp only [ofText?] at h
    split at h
    · rename_i group path hcut
      split at h
      · cases h
      · rename_i hne
        cases h
        simp only [not_or] at hne
        exact ⟨hne.1, (Text.cutFirst_eq_some_iff.mp hcut).1, hne.2⟩
    · cases h
  · rintro ⟨⟨hgroup, hpoint, hpath⟩, rfl⟩
    simp [ofText?, toText, Text.cutFirst_append hpoint, hgroup, hpath]

/-- Two well-formed keys with the same text are the same key. -/
theorem WellFormed.eq_of_toText {key other : MessageKey} (h : key.WellFormed)
    (hother : other.WellFormed) (htext : key.toText = other.toText) : key = other := by
  have hread := ofText?_eq_some_iff.mpr ⟨h, htext⟩
  rw [ofText?_eq_some_iff.mpr ⟨hother, rfl⟩] at hread
  exact (Option.some.inj hread).symm

/-- **Reading and writing keys undo each other.** A text is read as a key exactly if it has a point
with something before the first one and something after it, and the key that is read has this text. A
key is read back from its text exactly if its group is not empty and has no point, and its path is
not empty. -/
theorem ofText?_inverse_toText :
    (∀ t : Text, (ofText? t).isSome = true ↔
        ∃ before after, t = before ++ '.' :: after ∧ '.' ∉ before ∧ before ≠ [] ∧ after ≠ []) ∧
      (∀ (t : Text) (key : MessageKey), ofText? t = some key → key.toText = t) ∧
      ∀ key : MessageKey, ofText? key.toText = some key ↔
        key.group ≠ [] ∧ '.' ∉ key.group ∧ key.path ≠ [] := by
  refine ⟨fun t => ?_, fun t key => toText_of_ofText?, fun key => ?_⟩
  · rw [Option.isSome_iff_exists]
    constructor
    · rintro ⟨⟨group, path⟩, hkey⟩
      obtain ⟨hwf, htext⟩ := ofText?_eq_some_iff.mp hkey
      exact ⟨group, path, htext.symm, hwf.point_not_mem, hwf.group_ne_nil, hwf.path_ne_nil⟩
    · rintro ⟨before, after, ht, hpoint, hbefore, hafter⟩
      exact ⟨⟨before, after⟩, ofText?_eq_some_iff.mpr ⟨⟨hbefore, hpoint, hafter⟩, ht.symm⟩⟩
  · rw [ofText?_eq_some_iff]
    constructor
    · rintro ⟨⟨hgroup, hpoint, hpath⟩, _⟩
      exact ⟨hgroup, hpoint, hpath⟩
    · rintro ⟨hgroup, hpoint, hpath⟩
      exact ⟨⟨hgroup, hpoint, hpath⟩, rfl⟩

def itemCount : MessageKey := ⟨"cart".toList, "items.count".toList⟩

/-- The same text with the point of the path taken into the group. -/
def cartItems : MessageKey := ⟨"cart.items".toList, "count".toList⟩

/-- Both keys have the same text, and only one of them is read from it. -/
theorem ofText?_itemCount :
    ofText? "cart.items.count".toList = some itemCount ∧
      itemCount.toText = "cart.items.count".toList ∧
      cartItems.toText = "cart.items.count".toList ∧
      ofText? cartItems.toText ≠ some cartItems := by
  obtain ⟨_, hwritten, hback⟩ := ofText?_inverse_toText
  have hread : ofText? "cart.items.count".toList = some itemCount := by decide
  refine ⟨hread, hwritten _ _ hread, by decide, fun h => ?_⟩
  exact ((hback cartItems).mp h).2.1 (by decide)

end MessageKey
end Phrasebook
