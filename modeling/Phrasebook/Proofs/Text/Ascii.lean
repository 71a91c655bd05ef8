import Phrasebook.Proofs.Text.LowerCase
import Phrasebook.Text.Case
import Phrasebook.Unicode.Letter

/-!
# Phrasebook.Proofs.Text.Ascii

Case within the ASCII range. There the case mappings are those of `Char`, which change the letters
from A to Z and nothing else.

* `holds_of_ascii`: what holds of the 128 characters holds of the range.
* `image_of_ascii`, `inRanges_of_ascii`: of a table only the part below 128 counts.
* `standsFor_of_ascii`: characters with the same lower case stand for each other.
* `upper_of_ascii`, `lower_of_ascii`: the case of a text is that of its characters one by one.
-/

namespace Phrasebook
namespace Unicode

/-! ## Tables -/

@[elab_as_elim]
theorem holds_of_ascii {P : Char → Prop} {c : Char} (hc : c.toNat < 128)
    (h : ∀ code < 128, P (Char.ofNat code)) : P c := by
  have hcode := h c.toNat hc
  rwa [Char.ofNat_toNat] at hcode

theorem imageOf?_of_lt {run : CaseRun} {code : Nat} (h : code < run.first) :
    run.imageOf? code = none := by
  rw [CaseRun.imageOf?, if_neg]
  simp only [Bool.and_eq_true, decide_eq_true_eq]
  omega

theorem image_of_ascii {expansions : List (Nat × List Nat)} {run : CaseRun} {runs : List CaseRun}
    (hexpansions : ∀ entry ∈ expansions, 128 ≤ entry.1) (hruns : ∀ other ∈ runs, 128 ≤ other.first)
    {c : Char} (hc : c.toNat < 128) : image expansions (run :: runs) c = image [] [run] c := by
  have hlookup : expansions.lookup c.toNat = none := by
    rw [List.lookup_eq_none_iff]
    intro entry hentry
    have hle := hexpansions entry hentry
    exact bne_iff_ne.mpr (by omega)
  have hfind : runs.findSome? (·.imageOf? c.toNat) = none := by
    rw [List.findSome?_eq_none_iff]
    intro other hother
    have hle := hruns other hother
    exact imageOf?_of_lt (by omega)
  simp only [image, hlookup, List.findSome?_cons, hfind, List.lookup_nil, List.findSome?_nil]

theorem inRanges_of_ascii (first : List (Nat × Nat)) {rest : List (Nat × Nat)}
    (hrest : ∀ r ∈ rest, 128 ≤ r.1) {c : Char} (hc : c.toNat < 128) :
    inRanges (first ++ rest) c = inRanges first c := by
  have hnone : inRanges rest c = false := by
    rw [Bool.eq_false_iff, ne_eq, inRanges_iff]
    rintro ⟨r, hr, hle, _⟩
    have hlarge := hrest r hr
    omega
  rw [inRanges, List.any_append, ← inRanges, ← inRanges, hnone, Bool.or_false]

/-! ## Letters -/

section
variable {c : Char} (hc : c.toNat < 128)
include hc

theorem upperImage_of_ascii : upperImage c = [c.toUpper] := by
  have htable : upperImage c = image [] [⟨0x61, 0x7A, 1, -32⟩] c :=
    image_of_ascii (by decide) (by decide +kernel) hc
  rw [htable]
  refine holds_of_ascii hc ?_
  decide

theorem lowerImage_of_ascii : lowerImage c = [c.toLower] := by
  have htable : lowerImage c = image [] [⟨0x41, 0x5A, 1, 32⟩] c :=
    image_of_ascii (by decide) (by decide +kernel) hc
  rw [htable]
  refine holds_of_ascii hc ?_
  decide

theorem isLetter_of_ascii : isLetter c = c.isAlpha := by
  have htable : isLetter c = inRanges [(0x41, 0x5A), (0x61, 0x7A)] c :=
    inRanges_of_ascii [(0x41, 0x5A), (0x61, 0x7A)] (by decide +kernel) hc
  rw [htable]
  refine holds_of_ascii hc ?_
  decide

theorem lowerLetter_of_ascii : lowerLetter c = c.toLower := by
  rw [lowerLetter, lowerImage_of_ascii hc]
  rfl

theorem hasCase_of_ascii : hasCase c = c.isAlpha := by
  rw [hasCase, upperLetter, lowerLetter, upperImage_of_ascii hc, lowerImage_of_ascii hc]
  refine holds_of_ascii hc ?_
  decide

theorem toUpper_eq_self_iff : c.toUpper = c ↔ c.isLower = false := by
  refine holds_of_ascii hc ?_
  decide

theorem isLower_of_isUpper : c.isUpper = true → c.isLower = false := by
  refine holds_of_ascii hc ?_
  decide

theorem isLower_of_isDigit : c.isDigit = true → c.isLower = false := by
  refine holds_of_ascii hc ?_
  decide

theorem isAlpha_toLower : c.toLower.isAlpha = c.isAlpha := by
  refine holds_of_ascii hc ?_
  decide

theorem toLower_of_not_isAlpha : c.isAlpha = false → c.toLower = c := by
  refine holds_of_ascii hc ?_
  decide

end

theorem isAlpha_iff (c : Char) : c.isAlpha = true ↔ c.isUpper = true ∨ c.isLower = true := by
  rw [← Bool.or_eq_true]
  rfl

theorem toLower_of_not_ascii {c : Char} (hc : 128 ≤ c.toNat) : c.toLower = c := by
  apply dif_neg
  rintro ⟨_, hle⟩
  have hsmall : c.toNat ≤ 90 := hle
  omega

theorem lt_of_toLower_eq {k c : Char} (hk : k.toNat < 128) (h : c.toLower = k.toLower) :
    c.toNat < 128 := by
  have hlower : k.toLower.toNat < 128 := by
    refine holds_of_ascii hk ?_
    decide
  rcases Nat.lt_or_ge c.toNat 128 with hc | hc
  · exact hc
  · rwa [← h, toLower_of_not_ascii hc] at hlower

theorem standsFor_of_ascii {k c : Char} (hk : k.toNat < 128) (h : c.toLower = k.toLower) :
    standsFor k c = true := by
  have hc := lt_of_toLower_eq hk h
  rw [standsFor, hasCase_of_ascii hk]
  cases hletter : k.isAlpha with
  | true => simp [lowerLetter_of_ascii hk, lowerLetter_of_ascii hc, h]
  | false =>
    have hother : c.isAlpha = false := by
      rw [← isAlpha_toLower hc, h, isAlpha_toLower hk, hletter]
    rw [toLower_of_not_isAlpha hc hother, toLower_of_not_isAlpha hk hletter] at h
    simp [h]

theorem Caseless.inRanges_toLower {ranges : List (Nat × Nat)} (h : Caseless ranges) (c : Char) :
    inRanges ranges c.toLower = inRanges ranges c := by
  rcases Nat.lt_or_ge c.toNat 128 with hc | hc
  · refine h.inRanges_of_mem_lowerImage ?_
    rw [lowerImage_of_ascii hc]
    exact List.mem_singleton_self _
  · rw [toLower_of_not_ascii hc]

end Unicode

namespace Text

theorem upper_of_ascii {t : Text} (h : ∀ c ∈ t, c.toNat < 128) : upper t = t.map Char.toUpper := by
  induction t with
  | nil => rfl
  | cons c t ih =>
    rw [upper, List.flatMap_cons, ← upper, ih fun d hd => h d (List.mem_cons_of_mem c hd),
      Unicode.upperImage_of_ascii (h c List.mem_cons_self)]
    rfl

theorem lowerAfter_of_ascii {t : Text} (h : ∀ c ∈ t, c.toNat < 128) (before : Text) :
    lowerAfter before t = t.map Char.toLower := by
  induction t generalizing before with
  | nil => rfl
  | cons c t ih =>
    obtain ⟨hc, ht⟩ := List.forall_mem_cons.mp h
    have hsigma : c ≠ 'Σ' := by
      rintro rfl
      exact absurd hc (by decide)
    rw [lowerAfter, if_neg hsigma, Unicode.lowerImage_of_ascii hc, ih ht]
    rfl

theorem lower_of_ascii {t : Text} (h : ∀ c ∈ t, c.toNat < 128) : lower t = t.map Char.toLower :=
  lowerAfter_of_ascii h []

end Text
end Phrasebook
