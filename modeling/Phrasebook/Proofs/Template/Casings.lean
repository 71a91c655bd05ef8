import Phrasebook.Proofs.Text.Ascii
import Phrasebook.Template.Expansion

/-!
# Phrasebook.Proofs.Template.Casings

The casing that a single placeholder gives to its value, for names of ASCII characters.

* `ofToken_of_ascii`: the casing is told by the letters of the name alone. It is that of the value in
  upper case where no letter is a small one, and else the first letter decides.
* `expand_placeholder`: a message that is one placeholder, its name in any casing, becomes the value
  in that casing.
-/

namespace Phrasebook

namespace Casing

open Unicode Template

theorem upper_eq_self_iff {t : Text} (h : ∀ c ∈ t, c.toNat < 128) :
    t = Text.upper t ↔ t.any Char.isLower = false := by
  have hmap : t.map Char.toUpper = t.map id ↔ ∀ c ∈ t, c.toUpper = c := List.map_inj_left
  rw [List.map_id] at hmap
  rw [Text.upper_of_ascii h, eq_comm, hmap, List.any_eq_false]
  constructor
  · intro hsame c hc
    simp [(toUpper_eq_self_iff (h c hc)).mp (hsame c hc)]
  · intro hnone c hc
    exact (toUpper_eq_self_iff (h c hc)).mpr (by simpa using hnone c hc)

/-- The first letter is a capital, if there is a letter at all. -/
theorem capitalizeLetter_eq_self_iff {t : Text} (h : ∀ c ∈ t, c.toNat < 128) :
    t = capitalizeLetter t ↔ (t.find? Char.isAlpha).all Char.isUpper = true := by
  induction t with
  | nil => simp [capitalizeLetter]
  | cons c t ih =>
    have hc := h c List.mem_cons_self
    rw [capitalizeLetter, isLetter_of_ascii hc, List.find?_cons]
    cases hletter : c.isAlpha with
    | true =>
      rw [if_pos rfl, upperImage_of_ascii hc, List.singleton_append, List.cons.injEq,
        eq_comm, toUpper_eq_self_iff hc]
      have hboth := isLower_of_isUpper hc
      rw [isAlpha_iff] at hletter
      cases hupper : c.isUpper <;> simp_all
    | false =>
      rw [if_neg (by simp), List.cons.injEq, ih fun d hd => h d (List.mem_cons_of_mem c hd)]
      simp

theorem ofToken_of_ascii {w : Text} (h : ∀ c ∈ w, c.toNat < 128) :
    ofToken (sentinel :: w) =
      if w.any Char.isLower then
        if (w.find? Char.isAlpha).any Char.isUpper then title else verbatim
      else upper := by
  have htoken : ∀ c ∈ sentinel :: w, c.toNat < 128 := by
    intro c hc
    rcases List.mem_cons.mp hc with rfl | hc
    · decide
    · exact h c hc
  have hlower : (sentinel :: w).any Char.isLower = w.any Char.isLower := rfl
  have hfirst : (sentinel :: w).find? Char.isAlpha = w.find? Char.isAlpha := rfl
  rw [ofToken]
  simp only [upper_eq_self_iff htoken, capitalizeLetter_eq_self_iff htoken, hlower, hfirst]
  cases hany : w.any Char.isLower with
  | false => rfl
  | true =>
    -- a small letter is a letter, so there is a first one
    obtain ⟨c, hc, hsmall⟩ := List.any_eq_true.mp hany
    have hsome : (w.find? Char.isAlpha).isSome = true := by
      rw [List.find?_isSome]
      exact ⟨c, hc, (isAlpha_iff c).mpr (.inr hsmall)⟩
    obtain ⟨d, hd⟩ := Option.isSome_iff_exists.mp hsome
    simp [hd]

end Casing

namespace Template

open Unicode

theorem startsWith_of_ascii {name w : Text} (hname : ∀ c ∈ name, c.toNat < 128)
    (hw : w.map Char.toLower = name.map Char.toLower) : startsWith name w = true := by
  induction name generalizing w with
  | nil => simp [startsWith]
  | cons k name ih =>
    cases w with
    | nil => simp at hw
    | cons c w =>
      simp only [List.map_cons, List.cons.injEq] at hw
      rw [startsWith, standsFor_of_ascii (hname k List.mem_cons_self) hw.1,
        ih (fun d hd => hname d (List.mem_cons_of_mem k hd)) hw.2]
      rfl

/-- With a single name there is a single pass. -/
theorem expand_single {name : Text} (h : name ≠ []) (message : Text) (value : Value) :
    expand message (.ofList [(name, value)]) = value.toText.map (substitute message name) := by
  have hranking : byLength (.ofList [(name, value)]) = [(name, value)] := by
    show [(name, value)].filter (·.1 ≠ []) = [(name, value)]
    simp [h]
  rw [expand, hranking, List.foldlM_cons]
  cases value.toText <;> rfl

/-- A pass over a message that is a placeholder of the name, and nothing else. -/
theorem substitute_placeholder {name w : Text} (h : startsWith name w = true)
    (hlength : w.length = name.length) (value : Text) :
    substitute (sentinel :: w) name value = (Casing.ofToken (sentinel :: w)).apply value := by
  have hwhole : w.take name.length = w := List.take_of_length_le (Nat.le_of_eq hlength)
  have hrest : w.drop name.length = [] := List.drop_eq_nil_of_le (Nat.le_of_eq hlength)
  rw [substitute, scan_sentinel_of_some (nameRule_of_startsWith h value), hwhole, scan_skip, hrest,
    scan_nil, List.append_nil]

/-- **The casing of a placeholder is that of its value.** Let a name of ASCII characters be written
in a message in any casing. Then the text of its value is shown in upper case if there is no small
letter in the name as it is written; with its first character in upper case if there is one, but the
first letter is a capital; and as it is otherwise. -/
theorem expand_placeholder {name w : Text} (hne : name ≠ []) (hname : ∀ c ∈ name, c.toNat < 128)
    (hw : w.map Char.toLower = name.map Char.toLower) (value : Value) :
    expand (sentinel :: w) (.ofList [(name, value)]) = value.toText.map fun text =>
      if w.any Char.isLower then
        if (w.find? Char.isAlpha).any Char.isUpper then Text.capitalize text
        else text
      else Text.upper text := by
  have hlength : w.length = name.length := by
    have h := congrArg List.length hw
    rwa [List.length_map, List.length_map] at h
  have hascii : ∀ c ∈ w, c.toNat < 128 := by
    intro c hc
    have hlower : c.toLower ∈ name.map Char.toLower := hw ▸ List.mem_map_of_mem hc
    obtain ⟨k, hk, heq⟩ := List.mem_map.mp hlower
    exact lt_of_toLower_eq (hname k hk) heq.symm
  rw [expand_single hne]
  congr 1
  funext text
  rw [substitute_placeholder (startsWith_of_ascii hname hw) hlength, Casing.ofToken_of_ascii hascii]
  split
  · split <;> rfl
  · rfl

/-- A value for a name whose first letter stands behind a digit and a low line. -/
def numberedReplacements : Replacements :=
  .ofList [("2_name".toList, .text "élan Vital".toList)]

theorem expand_placeholder_numbered :
    "2_name".toList ≠ [] ∧ (∀ c ∈ "2_name".toList, c.toNat < 128) ∧
      (∀ w ∈ ["2_NAME".toList, "2_Name".toList, "2_nAME".toList],
        w.map Char.toLower = ("2_name".toList).map Char.toLower) ∧
      expand (sentinel :: "2_NAME".toList) numberedReplacements = .ok "ÉLAN VITAL".toList ∧
      expand (sentinel :: "2_Name".toList) numberedReplacements = .ok "Élan Vital".toList ∧
      expand (sentinel :: "2_nAME".toList) numberedReplacements = .ok "élan Vital".toList := by
  have hne : "2_name".toList ≠ [] := by decide
  have hname : ∀ c ∈ "2_name".toList, c.toNat < 128 := by simp
  have hcasing : ∀ w ∈ ["2_NAME".toList, "2_Name".toList, "2_nAME".toList],
      w.map Char.toLower = ("2_name".toList).map Char.toLower := by decide
  refine ⟨hne, hname, hcasing, ?_, ?_, ?_⟩
  · exact (expand_placeholder hne hname (hcasing _ (by simp)) _).trans (congrArg Except.ok (by decide))
  · exact (expand_placeholder hne hname (hcasing _ (by simp)) _).trans (congrArg Except.ok (by decide))
  · exact (expand_placeholder hne hname (hcasing _ (by simp)) _).trans (congrArg Except.ok (by decide))

end Template
end Phrasebook
