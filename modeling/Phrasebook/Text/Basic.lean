/-!
# Phrasebook.Text.Basic

Texts as lists of code points, and the cuts that the formats of this library make in them.

* `fields`: the parts of a text between the occurrences of a separator.
* `cutFirst`: the two texts around the first occurrence of a separator.
* `afterFirst`, `beforeFirst`: the text after, or before, the first occurrence of a word.
* `joinWith`: the texts of a list with a separator between neighbours.

`joinWith_fields` says that cutting at a separator loses nothing but the separators.
-/

namespace Phrasebook

/-- A text is the list of its code points, so positions and lengths count code points. -/
abbrev Text := List Char

namespace Text

/-- The parts of a text between the occurrences of `sep`; there is always at least one. -/
def fields (sep : Char) : Text → List Text
  | [] => [[]]
  | c :: rest =>
    if c = sep then [] :: fields sep rest
    else
      match fields sep rest with
      | [] => [[c]]
      | part :: parts => (c :: part) :: parts

/-- The texts before and after the first `sep`, if there is one. -/
def cutFirst (sep : Char) : Text → Option (Text × Text)
  | [] => none
  | c :: rest =>
    if c = sep then some ([], rest)
    else (cutFirst sep rest).map fun (before, after) => (c :: before, after)

/-- The text after the first occurrence of `word`, if there is one. -/
def afterFirst (word : Text) : Text → Option Text
  | [] => List.isPrefixOf? word []
  | c :: rest => (List.isPrefixOf? word (c :: rest)).or (afterFirst word rest)

/-- The text before the first occurrence of `word`, the whole text if there is none. -/
def beforeFirst (word : Text) : Text → Text
  | [] => []
  | c :: rest => if word.isPrefixOf (c :: rest) then [] else c :: beforeFirst word rest

/-- The texts of a list, with `sep` between neighbours. -/
def joinWith (sep : Text) : List Text → Text
  | [] => []
  | [part] => part
  | part :: next :: parts => part ++ sep ++ joinWith sep (next :: parts)

theorem fields_ne_nil (sep : Char) (t : Text) : fields sep t ≠ [] := by
  cases t with
  | nil => simp [fields]
  | cons c rest =>
    simp only [fields]
    split
    · simp
    · split <;> simp

theorem joinWith_fields (sep : Char) (t : Text) : joinWith [sep] (fields sep t) = t := by
  induction t with
  | nil => rfl
  | cons c rest ih =>
    simp only [fields]
    split
    · rename_i h
      cases hf : fields sep rest with
      | nil => exact absurd hf (fields_ne_nil sep rest)
      | cons part parts =>
        rw [hf] at ih
        simp [joinWith, ih, h]
    · cases hf : fields sep rest with
      | nil => exact absurd hf (fields_ne_nil sep rest)
      | cons part parts =>
        rw [hf] at ih
        cases parts with
        | nil => simpa [joinWith] using ih
        | cons next parts => simpa [joinWith] using ih

theorem cutFirst_eq_some {sep : Char} {t before after : Text}
    (h : cutFirst sep t = some (before, after)) : t = before ++ sep :: after := by
  induction t generalizing before with
  | nil => simp [cutFirst] at h
  | cons c rest ih =>
    simp only [cutFirst] at h
    split at h
    · rename_i hc
      cases h
      simp [hc]
    · obtain ⟨⟨b, a⟩, hb, he⟩ := Option.map_eq_some_iff.mp h
      cases he
      rw [ih hb]
      rfl

end Text
end Phrasebook
