import Phrasebook.Text.Trim

/-!
# Phrasebook.Proofs.Text.Blanks

Trimming, told by what it takes away: a text is its trimmed text with blanks around it
(`exists_blanks_around`), and trimming stops at the first character from either end that is not
blank (`trimLeft_append`, `trimRight_append`). So blanks around a trimmed text do not matter
(`trim_append_blanks`), and a change of characters that leaves blanks blank and the others solid can
come before the trimming or after it (`trim_map`).
-/

namespace Phrasebook
namespace Text

open Unicode

/-- White space of any length, also none. -/
def AllBlank (t : Text) : Prop :=
  ∀ c ∈ t, isBlank c = true

instance (t : Text) : Decidable (AllBlank t) :=
  decidable_of_iff (t.all isBlank = true) List.all_eq_true

theorem allBlank_nil : AllBlank [] := by
  intro c hc
  cases hc

theorem AllBlank.append {a b : Text} (ha : AllBlank a) (hb : AllBlank b) : AllBlank (a ++ b) := by
  intro c hc
  rcases List.mem_append.mp hc with hc | hc
  · exact ha c hc
  · exact hb c hc

theorem AllBlank.reverse {t : Text} (h : AllBlank t) : AllBlank t.reverse :=
  fun c hc => h c (List.mem_reverse.mp hc)

/-- A text that does not start with a blank. -/
def StartsSolid (t : Text) : Prop :=
  ∃ c rest, t = c :: rest ∧ isBlank c = false

theorem StartsSolid.append {a : Text} (h : StartsSolid a) (b : Text) : StartsSolid (a ++ b) := by
  obtain ⟨c, rest, rfl, hc⟩ := h
  exact ⟨c, rest ++ b, rfl, hc⟩

theorem StartsSolid.ne_nil {t : Text} (h : StartsSolid t) : t ≠ [] := by
  obtain ⟨c, rest, rfl, _⟩ := h
  simp

theorem startsSolid_of_head? {t : Text} (hne : t ≠ [])
    (h : ∀ c, t.head? = some c → isBlank c = false) : StartsSolid t := by
  cases t with
  | nil => exact absurd rfl hne
  | cons c rest => exact ⟨c, rest, rfl, h c rfl⟩

/-! ## The left end -/

theorem trimLeft_blanks {gap t : Text} (h : AllBlank gap) : trimLeft (gap ++ t) = trimLeft t :=
  List.dropWhile_append_of_pos h

theorem trimLeft_of_startsSolid {t : Text} (h : StartsSolid t) : trimLeft t = t := by
  obtain ⟨c, rest, rfl, hc⟩ := h
  simp [trimLeft, hc]

theorem trimLeft_append {gap t : Text} (hgap : AllBlank gap) (ht : StartsSolid t) :
    trimLeft (gap ++ t) = t := by
  rw [trimLeft_blanks hgap, trimLeft_of_startsSolid ht]

theorem trimLeft_eq_nil {t : Text} (h : AllBlank t) : trimLeft t = [] := by
  have := trimLeft_blanks (t := []) h
  simpa [trimLeft] using this

theorem exists_blanks_before (t : Text) : ∃ gap, AllBlank gap ∧ t = gap ++ trimLeft t := by
  refine ⟨t.takeWhile isBlank, ?_, List.takeWhile_append_dropWhile.symm⟩
  intro c hc
  exact (List.all_eq_true.mp List.all_takeWhile) c hc

/-! ## The right end -/

theorem trimRight_eq_nil {t : Text} (h : AllBlank t) : trimRight t = [] := by
  rw [trimRight, trimLeft_eq_nil h.reverse]
  rfl

/-- Trimming at the right does not reach into a part that ends with a character that is not blank. -/
theorem trimRight_append {w : Text} (h : StartsSolid w.reverse) (t : Text) :
    trimRight (w ++ t) = w ++ trimRight t := by
  have hw : List.dropWhile isBlank w.reverse = w.reverse := trimLeft_of_startsSolid h
  rw [trimRight, trimRight, trimLeft, trimLeft, List.reverse_append, List.dropWhile_append, hw]
  split
  · rename_i he
    rw [List.isEmpty_iff.mp he, List.reverse_reverse, List.reverse_nil, List.append_nil]
  · rw [List.reverse_append, List.reverse_reverse]

theorem exists_blanks_after (t : Text) : ∃ gap, AllBlank gap ∧ t = trimRight t ++ gap := by
  obtain ⟨gap, hgap, ht⟩ := exists_blanks_before t.reverse
  refine ⟨gap.reverse, hgap.reverse, ?_⟩
  have := congrArg List.reverse ht
  rwa [List.reverse_reverse, List.reverse_append] at this

/-- Trimming takes away blanks at the ends and nothing else. -/
theorem exists_blanks_around (t : Text) :
    ∃ before after, AllBlank before ∧ AllBlank after ∧ t = before ++ (trim t ++ after) := by
  obtain ⟨before, hbefore, hb⟩ := exists_blanks_before t
  obtain ⟨after, hafter, ha⟩ := exists_blanks_after (trimLeft t)
  refine ⟨before, after, hbefore, hafter, ?_⟩
  rw [trim, ← ha]
  exact hb

theorem trimLeft_eq_self {t : Text} (h : ∀ c, t.head? = some c → isBlank c = false) :
    trimLeft t = t := by
  cases t with
  | nil => rfl
  | cons c rest => simp [trimLeft, h c rfl]

theorem trim_of_trimmed {t : Text} (h : Trimmed t) : trim t = t := by
  have hlast : trimLeft t.reverse = t.reverse := by
    apply trimLeft_eq_self
    intro c hc
    rw [List.head?_reverse] at hc
    exact h.2 c hc
  rw [trim, trimLeft_eq_self h.1, trimRight, hlast, List.reverse_reverse]

theorem trim_append_blanks {before after : Text} (hbefore : AllBlank before) (hafter : AllBlank after)
    {t : Text} (h : Trimmed t) : trim (before ++ (t ++ after)) = t := by
  rw [trim, trimLeft_blanks hbefore]
  by_cases hne : t = []
  · rw [hne, List.nil_append, trimLeft_eq_nil hafter]
    rfl
  · have hstart : StartsSolid t := startsSolid_of_head? hne h.1
    have hend : StartsSolid t.reverse := by
      apply startsSolid_of_head? (by simpa using hne)
      intro c hc
      rw [List.head?_reverse] at hc
      exact h.2 c hc
    rw [trimLeft_of_startsSolid (hstart.append after), trimRight_append hend,
      trimRight_eq_nil hafter, List.append_nil]

theorem Trimmed.of_suffix {s t : Text} (h : Trimmed t) (hs : s <:+ t)
    (hhead : ∀ c, s.head? = some c → isBlank c = false) : Trimmed s := by
  refine ⟨hhead, fun c hc => h.2 c ?_⟩
  obtain ⟨front, rfl⟩ := hs
  rw [List.getLast?_append, hc, Option.some_or]

section
variable {f : Char → Char} (h : ∀ c, isBlank (f c) = isBlank c)
include h

theorem trimLeft_map (t : Text) : trimLeft (t.map f) = (trimLeft t).map f := by
  have hsame : isBlank ∘ f = isBlank := funext h
  rw [trimLeft, List.dropWhile_map, hsame, ← trimLeft]

theorem trim_map (t : Text) : trim (t.map f) = (trim t).map f := by
  rw [trim, trimLeft_map h, trimRight, ← List.map_reverse, trimLeft_map h, ← List.map_reverse,
    ← trimRight, ← trim]

end

theorem trim_isInfix (t : Text) : trim t <:+: t := by
  obtain ⟨before, after, _, _, h⟩ := exists_blanks_around t
  exact ⟨before, after, by rw [List.append_assoc]; exact h.symm⟩

end Text
end Phrasebook
