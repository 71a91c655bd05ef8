import Phrasebook.Numeral.Scientific
import Phrasebook.Proofs.Text.Blanks

/-!
# Phrasebook.Proofs.Numeral.Padding

White space at a numeral. Padding around it is passed over (`trimPadding_append`), and no white space
may stand inside of it (`blankless_of_readBinary64?`). An information separator is white space but no
padding, so a text that has one is no numeral.

* `Leaves`: each reader takes a part without white space off the front of the text.

`readBinary64?_append_blanks` says what white space behind a text does to its reading.
-/

namespace Phrasebook
namespace Numeral

open Unicode Text

/-! ## Texts without white space -/

def Blankless (t : Text) : Prop :=
  ∀ c ∈ t, isBlank c = false

instance (t : Text) : Decidable (Blankless t) :=
  decidable_of_iff (t.all (!isBlank ·) = true) (by simp [Blankless])

theorem blankless_nil : Blankless [] := by
  intro c hc
  cases hc

theorem Blankless.cons {c : Char} {t : Text} (hc : isBlank c = false) (h : Blankless t) :
    Blankless (c :: t) :=
  List.forall_mem_cons.mpr ⟨hc, h⟩

theorem Blankless.append {a b : Text} (ha : Blankless a) (hb : Blankless b) :
    Blankless (a ++ b) := by
  intro c hc
  rcases List.mem_append.mp hc with hc | hc
  · exact ha c hc
  · exact hb c hc

/-- What is left of a text when a part without white space is taken off its front. -/
def Leaves (t after : Text) : Prop :=
  ∃ front, Blankless front ∧ t = front ++ after

theorem Leaves.refl (t : Text) : Leaves t t :=
  ⟨[], blankless_nil, rfl⟩

theorem Leaves.cons {c : Char} {t after : Text} (hc : isBlank c = false) (h : Leaves t after) :
    Leaves (c :: t) after := by
  obtain ⟨front, hfront, rfl⟩ := h
  exact ⟨c :: front, hfront.cons hc, rfl⟩

theorem Leaves.blankless {t after : Text} (h : Leaves t after) (hafter : Blankless after) :
    Blankless t := by
  obtain ⟨front, hfront, rfl⟩ := h
  exact hfront.append hafter

/-! ## Readers -/

theorem isBlank_of_decimalValue? {c : Char} {d : Nat} (h : decimalValue? c = some d) :
    isBlank c = false := by
  have hapart : ∀ first ∈ zeros, ∀ r ∈ blankRanges, r.2 < first ∨ first + 9 < r.1 := by decide
  obtain ⟨first, hfind, _⟩ := Option.map_eq_some_iff.mp h
  have hdigit := List.find?_some hfind
  simp only [Bool.and_eq_true, decide_eq_true_eq] at hdigit
  rw [Bool.eq_false_iff]
  intro hblank
  obtain ⟨r, hr, hlow, hhigh⟩ := inRanges_iff.mp hblank
  have hr' := hapart first (List.mem_of_find?_eq_some hfind) r hr
  omega

theorem toLower_of_isBlank {c : Char} (h : isBlank c = true) : c.toLower = c := by
  have hapart : ∀ r ∈ blankRanges, r.2 < 65 ∨ 90 < r.1 := by decide
  obtain ⟨r, hr, hlow, hhigh⟩ := inRanges_iff.mp h
  have hr' := hapart r hr
  have hcase : ¬ (c.val ≥ 'A'.val ∧ c.val ≤ 'Z'.val) := by
    rintro ⟨hA, hZ⟩
    have hA' : 65 ≤ c.toNat := hA
    have hZ' : c.toNat ≤ 90 := hZ
    omega
  exact dif_neg hcase

theorem leaves_of_moreDigits? {t after : Text} {digits : List Nat}
    (h : moreDigits? t = some (digits, after)) : Leaves t after := by
  fun_induction moreDigits? t generalizing digits after with
  | case1 =>
    cases h
    exact .refl []
  | case2 c rest d hd ih =>
    obtain ⟨⟨more, left⟩, hmore, he⟩ := Option.map_eq_some_iff.mp h
    cases he
    exact ((ih hmore).cons (isBlank_of_decimalValue? hd)).cons (by decide)
  | case3 => cases h
  | case4 => cases h
  | case5 c rest _ _ d hd ih =>
    obtain ⟨⟨more, left⟩, hmore, he⟩ := Option.map_eq_some_iff.mp h
    cases he
    exact (ih hmore).cons (isBlank_of_decimalValue? hd)
  | case6 =>
    cases h
    exact .refl _

theorem leaves_of_digitRun? {t after : Text} {digits : List Nat}
    (h : digitRun? t = some (digits, after)) : Leaves t after := by
  cases t with
  | nil =>
    cases h
    exact .refl []
  | cons c rest =>
    simp only [digitRun?] at h
    split at h
    · rename_i d hd
      obtain ⟨⟨more, left⟩, hmore, he⟩ := Option.map_eq_some_iff.mp h
      cases he
      exact (leaves_of_moreDigits? hmore).cons (isBlank_of_decimalValue? hd)
    · cases h
      exact .refl _

theorem leaves_of_fraction? {t after : Text} {digits : List Nat}
    (h : fraction? t = some (digits, after)) : Leaves t after := by
  unfold fraction? at h
  split at h
  · exact (leaves_of_digitRun? h).cons (by decide)
  · cases h
    exact .refl _

theorem leaves_splitSign (t : Text) : Leaves t (splitSign t).2 := by
  unfold splitSign
  split
  · exact (Leaves.refl _).cons (by decide)
  · exact (Leaves.refl _).cons (by decide)
  · exact .refl _

theorem blankless_of_exponent? {t : Text} {n : Int} (h : exponent? t = some n) : Blankless t := by
  cases t with
  | nil => exact blankless_nil
  | cons c rest =>
    simp only [exponent?] at h
    split at h
    · rename_i hc
      have hblank : isBlank c = false := by
        simp only [Bool.or_eq_true, decide_eq_true_eq] at hc
        rcases hc with rfl | rfl <;> decide
      split at h
      · rename_i hrun
        exact ((leaves_splitSign rest).blankless
          ((leaves_of_digitRun? hrun).blankless blankless_nil)).cons hblank
      · cases h
    · cases h

theorem blankless_of_map_toLower {t : Text} (h : Blankless (t.map Char.toLower)) :
    Blankless t := by
  intro c hc
  rw [Bool.eq_false_iff]
  intro hblank
  have hlower : c ∈ t.map Char.toLower := List.mem_map.mpr ⟨c, hc, toLower_of_isBlank hblank⟩
  rw [h c hlower] at hblank
  cases hblank

theorem blankless_of_word? {negative : Bool} {t : Text} {x : Binary64}
    (h : word? negative t = some x) : Blankless t := by
  apply blankless_of_map_toLower
  simp only [word?] at h
  split at h
  · rename_i hinfinity
    simp only [Bool.or_eq_true, decide_eq_true_eq] at hinfinity
    rcases hinfinity with hword | hword <;> rw [hword] <;> decide
  · split at h
    · rename_i hnan
      rw [hnan]
      decide
    · cases h

theorem blankless_of_unsigned? {negative : Bool} {t : Text} {x : Binary64}
    (h : unsigned? negative t = some x) : Blankless t := by
  simp only [unsigned?, Option.bind_eq_bind, Option.bind_eq_some_iff] at h
  obtain ⟨⟨whole, afterWhole⟩, hwhole, ⟨fraction, afterFraction⟩, hfraction, exponent, hexponent, _⟩ :=
    h
  exact (leaves_of_digitRun? hwhole).blankless
    ((leaves_of_fraction? hfraction).blankless (blankless_of_exponent? hexponent))

theorem blankless_of_readBinary64? {t : Text} {x : Binary64} (h : readBinary64? t = some x) :
    Blankless (trimPadding t) := by
  apply (leaves_splitSign (trimPadding t)).blankless
  rcases Option.or_eq_some_iff.mp h with hword | ⟨_, hnumber⟩
  · exact blankless_of_word? hword
  · exact blankless_of_unsigned? hnumber

/-! ## Padding -/

theorem mem_trimPadding {t : Text} {c : Char} (hc : c ∈ t) (h : isPadding c = false) :
    c ∈ trimPadding t := by
  have hkept : ∀ {s : Text}, c ∈ s → c ∈ s.dropWhile isPadding := by
    intro s hs
    rw [← List.takeWhile_append_dropWhile (p := isPadding) (l := s)] at hs
    rcases List.mem_append.mp hs with hs | hs
    · rw [List.all_eq_true.mp List.all_takeWhile c hs] at h
      cases h
    · exact hs
  rw [trimPadding, List.mem_reverse]
  exact hkept (List.mem_reverse.mpr (hkept hc))

theorem trimPadding_append {gap : Text} (h : ∀ c ∈ gap, isPadding c = true) (t : Text) :
    trimPadding (t ++ gap) = trimPadding t := by
  have hgap : (gap ++ []).dropWhile isPadding = [] := List.dropWhile_append_of_pos h
  rw [List.append_nil] at hgap
  have hreverse : ∀ c ∈ gap.reverse, isPadding c = true := fun c hc => h c (List.mem_reverse.mp hc)
  rw [trimPadding, trimPadding, List.dropWhile_append]
  split
  · rename_i hempty
    rw [hgap, List.isEmpty_iff.mp hempty]
  · rw [List.reverse_append, List.dropWhile_append_of_pos hreverse]

/-- Padding behind a text changes nothing in its reading. With other white space behind it a text is
no numeral. -/
theorem readBinary64?_append_blanks {gap : Text} (h : AllBlank gap) (t : Text) :
    readBinary64? (t ++ gap) = if gap.all isPadding then readBinary64? t else none := by
  split
  · rename_i hpadding
    rw [readBinary64?, trimPadding_append (List.all_eq_true.mp hpadding), readBinary64?]
  · -- Trimming keeps white space that is no padding, and the readers do not take it.
    rename_i hother
    obtain ⟨c, hc, hpadding⟩ : ∃ c ∈ gap, isPadding c = false := by simpa using hother
    rw [Option.eq_none_iff_forall_ne_some]
    intro x hx
    have hsolid := blankless_of_readBinary64? hx c
      (mem_trimPadding (List.mem_append_right t hc) hpadding)
    rw [h c hc] at hsolid
    cases hsolid

end Numeral
end Phrasebook
