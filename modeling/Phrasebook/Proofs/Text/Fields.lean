import Mathlib.Data.List.Basic
import Phrasebook.Text.Basic

/-!
# Phrasebook.Proofs.Text.Fields

The parts of a text between separators: no part holds a separator (`not_mem_of_mem_fields`), a
separator divides the parts of the texts around it (`fields_append_sep`), and texts without separators
are the parts of what they are joined to (`fields_joinWith`). Of the two texts around the first
separator, the one before it is the one that holds none (`cutFirst_eq_some_iff`). A word that does not
occur before a place is found at that place (`afterFirst_append`).
-/

namespace Phrasebook
namespace Text

theorem not_mem_of_mem_fields {sep : Char} {t part : Text} (h : part ∈ fields sep t) :
    sep ∉ part := by
  induction t generalizing part with
  | nil =>
    simp only [fields, List.mem_singleton] at h
    simp [h]
  | cons c rest ih =>
    simp only [fields] at h
    split at h
    · rcases List.mem_cons.mp h with rfl | h
      · simp
      · exact ih h
    · rename_i hc
      cases hf : fields sep rest with
      | nil => exact absurd hf (fields_ne_nil sep rest)
      | cons first parts =>
        rw [hf] at h ih
        rcases List.mem_cons.mp h with rfl | h
        · have hfirst := ih (by simp : first ∈ first :: parts)
          simp [Ne.symm hc, hfirst]
        · exact ih (List.mem_cons_of_mem _ h)

theorem fields_append_sep (sep : Char) (a b : Text) :
    fields sep (a ++ sep :: b) = fields sep a ++ fields sep b := by
  induction a with
  | nil => simp [fields]
  | cons c a ih =>
    simp only [List.cons_append, fields]
    split
    · rw [ih, List.cons_append]
    · rw [ih]
      cases hf : fields sep a with
      | nil => exact absurd hf (fields_ne_nil sep a)
      | cons first parts => rfl

theorem fields_of_not_mem {sep : Char} {t : Text} (h : sep ∉ t) : fields sep t = [t] := by
  induction t with
  | nil => rfl
  | cons c t ih =>
    simp only [List.mem_cons, not_or] at h
    simp [fields, Ne.symm h.1, ih h.2]

theorem fields_joinWith {sep : Char} {first : Text} {rest : List Text}
    (h : ∀ part ∈ first :: rest, sep ∉ part) :
    fields sep (joinWith [sep] (first :: rest)) = first :: rest := by
  induction rest generalizing first with
  | nil => exact fields_of_not_mem (h first List.mem_cons_self)
  | cons next rest ih =>
    have hfirst : fields sep first = [first] := fields_of_not_mem (h first List.mem_cons_self)
    have hrest : fields sep (joinWith [sep] (next :: rest)) = next :: rest :=
      ih fun part hpart => h part (List.mem_cons_of_mem first hpart)
    rw [joinWith, List.append_assoc, List.singleton_append, fields_append_sep, hfirst, hrest]
    rfl

theorem isInfix_joinWith {sep part : Text} {parts : List Text} (h : part ∈ parts) :
    part <:+: joinWith sep parts := by
  induction parts with
  | nil => cases h
  | cons first rest ih =>
    cases rest with
    | nil =>
      rw [List.mem_singleton.mp h]
      exact List.infix_refl first
    | cons next rest =>
      rw [joinWith]
      rcases List.mem_cons.mp h with rfl | h
      · exact ⟨[], sep ++ joinWith sep (next :: rest), by simp⟩
      · exact (ih h).trans (List.suffix_append _ _).isInfix

/-! ## The first separator -/

theorem cutFirst_append {sep : Char} {before : Text} (h : sep ∉ before) (after : Text) :
    cutFirst sep (before ++ sep :: after) = some (before, after) := by
  induction before with
  | nil => simp [cutFirst]
  | cons c before ih =>
    simp only [List.mem_cons, not_or] at h
    simp [cutFirst, Ne.symm h.1, ih h.2]

theorem cutFirst_eq_some_iff {sep : Char} {t before after : Text} :
    cutFirst sep t = some (before, after) ↔ sep ∉ before ∧ t = before ++ sep :: after := by
  constructor
  · intro h
    refine ⟨?_, cutFirst_eq_some h⟩
    induction t generalizing before with
    | nil => cases h
    | cons c t ih =>
      simp only [cutFirst] at h
      split at h
      · cases h
        simp
      · rename_i hc
        obtain ⟨⟨b, a⟩, hb, he⟩ := Option.map_eq_some_iff.mp h
        cases he
        simp [Ne.symm hc, ih hb]
  · rintro ⟨h, rfl⟩
    exact cutFirst_append h after

theorem takeWhile_append_of_not_mem {sep : Char} {t : Text} (h : sep ∉ t) (rest : Text) :
    (t ++ rest).takeWhile (· != sep) = t ++ rest.takeWhile (· != sep) := by
  apply List.takeWhile_append_of_pos
  intro c hc
  rw [bne_iff_ne]
  rintro rfl
  exact h hc

/-! ## The first occurrence of a word -/

section
variable {word : Text}

/-- A word is not found where none of its characters is. -/
theorem isInfix_of_append_foreign (hne : word ≠ []) {a b : Text} (hb : ∀ c ∈ word, c ∉ b)
    (h : word <:+: a ++ b) : word <:+: a := by
  rcases List.infix_append_iff.mp h with ha | hoccurs | ⟨front, back, rfl, hfront, hback⟩
  · exact ha
  · obtain ⟨c, hc⟩ := List.exists_mem_of_ne_nil word hne
    exact absurd (hoccurs.subset hc) (hb c hc)
  · cases back with
    | nil => simpa using hfront.isInfix
    | cons c back => exact absurd (hback.subset List.mem_cons_self) (hb c (by simp))

theorem isInfix_of_foreign_append (hne : word ≠ []) {a b : Text} (ha : ∀ c ∈ word, c ∉ a)
    (h : word <:+: a ++ b) : word <:+: b := by
  rcases List.infix_append_iff.mp h with hoccurs | hb | ⟨front, back, rfl, hfront, hback⟩
  · obtain ⟨c, hc⟩ := List.exists_mem_of_ne_nil word hne
    exact absurd (hoccurs.subset hc) (ha c hc)
  · exact hb
  · cases front with
    | nil => simpa using hback.isInfix
    | cons c front => exact absurd (hfront.subset List.mem_cons_self) (ha c (by simp))

theorem beforeFirst_of_not_isInfix {t : Text} (h : ¬ word <:+: t) : beforeFirst word t = t := by
  induction t with
  | nil => rfl
  | cons c t ih =>
    have hstarts : ¬ word <+: c :: t := fun hstarts => h hstarts.isInfix
    have hrest : ¬ word <:+: t := fun hoccurs => h (hoccurs.trans (List.suffix_cons c t).isInfix)
    rw [beforeFirst, if_neg (by simpa using hstarts), ih hrest]

/-- A word that has its first character only once cannot start before the place where it stands and
reach into it. -/
theorem not_isPrefix_append {c d : Char} {back before : Text} (hc : c ∉ back)
    (h : ¬ c :: back <:+: d :: before) (after : Text) :
    ¬ c :: back <+: d :: before ++ (c :: back ++ after) := by
  intro hword
  rcases List.prefix_or_prefix_of_prefix hword (List.prefix_append _ _) with hinside | ⟨rest, hrest⟩
  · exact h hinside.isInfix
  · -- The word reaches past its place, so its first character is also a later one of it.
    have hlong : d :: before ++ rest <+: d :: before ++ (c :: back ++ after) := by
      rw [hrest]
      exact hword
    have hover : rest <+: c :: back ++ after := (List.prefix_append_right_inj _).mp hlong
    cases rest with
    | nil =>
      rw [List.append_nil] at hrest
      exact h (hrest ▸ List.infix_refl _)
    | cons e rest =>
      have he : e = c := (List.cons_prefix_cons.mp hover).1
      have hback : back = before ++ e :: rest := (List.cons.inj hrest).2.symm
      exact hc (by simp [hback, he])

theorem afterFirst_append {c : Char} {back before : Text} (hc : c ∉ back)
    (h : ¬ c :: back <:+: before) (after : Text) :
    afterFirst (c :: back) (before ++ (c :: back ++ after)) = some after := by
  induction before with
  | nil =>
    have hstarts : List.isPrefixOf? (c :: back) (c :: (back ++ after)) = some after :=
      List.isPrefixOf?_eq_some_iff_append_eq.mpr rfl
    rw [List.nil_append, List.cons_append, afterFirst, hstarts, Option.some_or]
  | cons d before ih =>
    have hnone : List.isPrefixOf? (c :: back) (d :: (before ++ (c :: back ++ after))) = none := by
      rw [Option.eq_none_iff_forall_ne_some]
      intro rest hrest
      exact not_isPrefix_append hc h after ⟨rest, List.isPrefixOf?_eq_some_iff_append_eq.mp hrest⟩
    have hbefore : ¬ c :: back <:+: before := fun hoccurs =>
      h (hoccurs.trans (List.suffix_cons d before).isInfix)
    rw [List.cons_append, afterFirst, hnone, Option.none_or, ih hbefore]

end

end Text
end Phrasebook
