import Phrasebook.Locale.Preference
import Phrasebook.Proofs.Numeral.Padding
import Phrasebook.Proofs.Text.Fields

/-!
# Phrasebook.Proofs.Locale.Header

Headers that are written from items: each has a range and may have the text of a weight, and blanks
stand around it.

* `rangeOf_text`, `qualityText?_text`: the cuts at `;` and `q=` find the two parts of an item,
  whatever the weight is.
* `comma_not_mem_text`: the cuts at `,` do not go through an item.

`parseHeader_written` says that the ranges are read back in order, and with which qualities.
-/

namespace Phrasebook
namespace Locale

open Unicode Text

/-- An item of a header, with the blanks around it. The range and the weight hold nothing that would
end them. -/
structure HeaderItem where
  before : Text
  range : Text
  weight : Option Text
  after : Text
  allBlank_before : AllBlank before
  allBlank_after : AllBlank after
  range_ne_nil : range ≠ []
  trimmed_range : Trimmed range
  comma_not_mem_range : ',' ∉ range
  semicolon_not_mem_range : ';' ∉ range
  key_not_in_range : ¬ "q=".toList <:+: range
  comma_not_mem_weight : ∀ w ∈ weight, ',' ∉ w
  key_not_in_weight : ∀ w ∈ weight, ¬ "q=".toList <:+: w

/-- White space that may not stand around a number. -/
def isInformationSeparator (c : Char) : Bool :=
  0x1C ≤ c.toNat && c.toNat ≤ 0x1F

namespace HeaderItem

def weightPart (item : HeaderItem) : Text :=
  match item.weight with
  | none => []
  | some w => ";q=".toList ++ w

def text (item : HeaderItem) : Text :=
  item.before ++ (item.range ++ item.weightPart ++ item.after)

/-- The number that the weight denotes; 1 if there is none, or an information separator behind it. -/
def quality (item : HeaderItem) : Binary64 :=
  match item.weight with
  | none => .one
  | some w =>
    if item.after.any isInformationSeparator then .one else (Numeral.readBinary64? w).getD .one

end HeaderItem

/-- The header with the given items. -/
def written (items : List HeaderItem) : Text :=
  joinWith [','] (items.map HeaderItem.text)

/-! ## Blanks and signs -/

theorem not_mem_of_allBlank {c : Char} (hc : isBlank c = false) {t : Text} (h : AllBlank t) :
    c ∉ t := by
  intro hmem
  rw [h c hmem] at hc
  cases hc

theorem key_foreign {t : Text} (h : AllBlank t) : ∀ c ∈ "q=".toList, c ∉ t := by
  have hkey : Numeral.Blankless "q=".toList := by decide
  exact fun c hc => not_mem_of_allBlank (hkey c hc) h

theorem all_isPadding {t : Text} (h : AllBlank t) :
    t.all Numeral.isPadding = !t.any isInformationSeparator := by
  rw [List.not_any_eq_all_not, Bool.eq_iff_iff, List.all_eq_true, List.all_eq_true]
  refine forall₂_congr fun c hc => ?_
  rw [Numeral.isPadding, h c hc, Bool.true_and, isInformationSeparator]

/-! ## One item -/

section
variable (item : HeaderItem)

theorem comma_not_mem_text : ',' ∉ item.text := by
  have hbefore : ',' ∉ item.before := not_mem_of_allBlank (by decide) item.allBlank_before
  have hafter : ',' ∉ item.after := not_mem_of_allBlank (by decide) item.allBlank_after
  have hpart : ',' ∉ item.weightPart := by
    unfold HeaderItem.weightPart
    split
    · simp
    · rename_i w hw
      simp [item.comma_not_mem_weight w hw]
  simp [HeaderItem.text, hbefore, item.comma_not_mem_range, hpart, hafter]

theorem semicolon_not_mem_front : ';' ∉ item.before ++ item.range := by
  have hbefore : ';' ∉ item.before := not_mem_of_allBlank (by decide) item.allBlank_before
  simp [hbefore, item.semicolon_not_mem_range]

theorem key_not_in_front : ¬ "q=".toList <:+: item.before ++ item.range ++ [';'] := by
  intro hoccurs
  have hsemicolon : ∀ c ∈ "q=".toList, c ∉ [';'] := by
    intro c hc hmem
    rw [List.mem_singleton.mp hmem] at hc
    exact absurd hc (by decide)
  have hword : "q=".toList <:+: item.before ++ item.range :=
    isInfix_of_append_foreign (by decide) hsemicolon hoccurs
  exact item.key_not_in_range
    (isInfix_of_foreign_append (by decide) (key_foreign item.allBlank_before) hword)

variable {item}

theorem text_of_none (hw : item.weight = none) :
    item.text = item.before ++ (item.range ++ item.after) := by
  simp [HeaderItem.text, HeaderItem.weightPart, hw]

theorem text_of_some {w : Text} (hw : item.weight = some w) :
    item.text = item.before ++ item.range ++ ';' :: ("q=".toList ++ (w ++ item.after)) := by
  simp [HeaderItem.text, HeaderItem.weightPart, hw]

theorem semicolon_not_mem_text (hw : item.weight = none) : ';' ∉ item.text := by
  have hafter : ';' ∉ item.after := not_mem_of_allBlank (by decide) item.allBlank_after
  have hfront := semicolon_not_mem_front item
  rw [text_of_none hw, ← List.append_assoc, List.mem_append]
  rintro (hmem | hmem)
  · exact hfront hmem
  · exact hafter hmem

theorem rangeOf_text : rangeOf item.text = item.range := by
  cases hw : item.weight with
  | none =>
    have htake : item.text.takeWhile (· != ';') = item.text := by
      simpa using takeWhile_append_of_not_mem (semicolon_not_mem_text hw) []
    rw [rangeOf, htake, text_of_none hw]
    exact trim_append_blanks item.allBlank_before item.allBlank_after item.trimmed_range
  | some w =>
    have htake : item.text.takeWhile (· != ';') = item.before ++ (item.range ++ []) := by
      rw [text_of_some hw, takeWhile_append_of_not_mem (semicolon_not_mem_front item)]
      simp
    rw [rangeOf, htake]
    exact trim_append_blanks item.allBlank_before allBlank_nil item.trimmed_range

theorem qualityText?_text : qualityText? item.text = item.weight.map (· ++ item.after) := by
  cases hw : item.weight with
  | none =>
    have hsemicolon : ¬ item.text.contains ';' = true := by
      simpa using semicolon_not_mem_text hw
    rw [qualityText?, if_neg hsemicolon, Option.map_none]
  | some w =>
    have hsemicolon : item.text.contains ';' = true := by
      simp [text_of_some hw]
    -- No key stands in front of the weight's own, and none follows it.
    have hafter : afterFirst "q=".toList item.text = some (w ++ item.after) := by
      rw [text_of_some hw, List.append_cons]
      exact afterFirst_append (by decide) (key_not_in_front item) (w ++ item.after)
    have hweight : ¬ "q=".toList <:+: w ++ item.after := by
      intro hoccurs
      exact item.key_not_in_weight w hw
        (isInfix_of_append_foreign (by decide) (key_foreign item.allBlank_after) hoccurs)
    rw [qualityText?, if_pos hsemicolon, hafter, Option.map_some,
      beforeFirst_of_not_isInfix hweight, Option.map_some]

theorem qualityOf_text : qualityOf item.text = item.quality := by
  rw [qualityOf, qualityText?_text, HeaderItem.quality]
  cases item.weight with
  | none => rfl
  | some w =>
    rw [Option.map_some, Option.bind_some, Numeral.readBinary64?_append_blanks item.allBlank_after,
      all_isPadding item.allBlank_after]
    cases item.after.any isInformationSeparator <;> rfl

theorem preferenceOf?_text : preferenceOf? item.text = some ⟨item.range, item.quality⟩ := by
  rw [preferenceOf?, rangeOf_text, if_neg item.range_ne_nil, qualityOf_text]

end

/-! ## A header -/

/-- **Reading undoes writing.** Every range is read back, at its place, and with its weight. A weight
that denotes no number counts as 1, and so does a number with an information separator behind it:
that one is white space at the end of an item, but not at the end of a number. -/
theorem parseHeader_written (items : List HeaderItem) :
    parseHeader (written items) = items.map fun item => ⟨item.range, item.quality⟩ := by
  have hitems : (items.map HeaderItem.text).filterMap preferenceOf? =
      items.map fun item => ⟨item.range, item.quality⟩ := by
    rw [List.filterMap_map]
    exact List.filterMap_eq_map_iff_forall_eq_some.mpr fun item _ => preferenceOf?_text
  cases items with
  | nil => rfl
  | cons first rest =>
    have hcomma : ∀ part ∈ (first :: rest).map HeaderItem.text, ',' ∉ part := by
      intro part hpart
      obtain ⟨item, _, rfl⟩ := List.mem_map.mp hpart
      exact comma_not_mem_text item
    rw [List.map_cons] at hcomma
    rw [parseHeader, written, List.map_cons, fields_joinWith hcomma]
    exact hitems

/-- A weight of one half, with an information separator behind it. -/
def separatedItem : HeaderItem where
  before := []
  range := "en".toList
  weight := some "0.5".toList
  after := [Char.ofNat 0x1C]
  allBlank_before := allBlank_nil
  allBlank_after := by decide
  range_ne_nil := by decide
  trimmed_range := by
    constructor <;> rintro c ⟨⟩ <;> decide
  comma_not_mem_range := by decide
  semicolon_not_mem_range := by decide
  key_not_in_range := by decide
  comma_not_mem_weight := by rintro w ⟨⟩; decide
  key_not_in_weight := by rintro w ⟨⟩; decide

theorem parseHeader_separatedItem :
    parseHeader (written [separatedItem]) = [⟨"en".toList, .one⟩] ∧
      ¬ ∀ items : List HeaderItem, parseHeader (written items) =
        items.map fun item => ⟨item.range, (item.weight.bind Numeral.readBinary64?).getD .one⟩ := by
  have hread : parseHeader (written [separatedItem]) = [⟨"en".toList, .one⟩] := by decide +kernel
  refine ⟨hread, fun h => ?_⟩
  have hclaimed := h [separatedItem]
  rw [hread] at hclaimed
  exact absurd hclaimed (by decide +kernel)

end Locale
end Phrasebook
