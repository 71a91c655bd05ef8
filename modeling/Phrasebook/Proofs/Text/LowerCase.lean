import Phrasebook.Text.Case
import Phrasebook.Text.Trim

/-!
# Phrasebook.Proofs.Text.LowerCase

Lower case, over all characters. The table of the mapping is taken as two sets of code points, the
ones that it moves and the ones that it moves to.

* `lowerSources_disjoint`: no character is in both. So a text in lower case stays as it is
  (`lower_lower`).
* `Caseless`: ranges of characters that are in neither. The mapping does not enter or leave them;
  white space is an example (`trimmed_lower_iff`).
-/

namespace Phrasebook
namespace Unicode

/-! ## Sets of code points -/

/-- A set of code points, each being a bit of the number. Sets are compared in one step this way,
however many code points they have. -/
def bitsOf (codes : List Nat) : Nat :=
  codes.foldr (fun code bits => 1 <<< code ||| bits) 0

theorem testBit_bitsOf (codes : List Nat) (code : Nat) :
    (bitsOf codes).testBit code = decide (code ∈ codes) := by
  induction codes with
  | nil => simp [bitsOf]
  | cons first codes ih =>
    have hbit : (1 <<< first).testBit code = decide (code = first) := by
      rw [Nat.one_shiftLeft, Nat.testBit_two_pow]
      simp [eq_comm]
    rw [bitsOf, List.foldr_cons, ← bitsOf, Nat.testBit_or, ih, hbit]
    simp

theorem not_mem_of_bitsOf {a b : List Nat} (h : bitsOf a &&& bitsOf b = 0) {code : Nat}
    (hcode : code ∈ a) : code ∉ b := by
  intro hmem
  have hbit : (bitsOf a &&& bitsOf b).testBit code = true := by
    rw [Nat.testBit_and, testBit_bitsOf, testBit_bitsOf]
    simp [hcode, hmem]
  rw [h] at hbit
  simp at hbit

/-! ## The table -/

/-- The code points that a run maps. -/
def CaseRun.codes (run : CaseRun) : List Nat :=
  List.range' run.first ((run.last - run.first) / run.stride + 1) run.stride

/-- The code point that a run puts in the place of `code`. -/
def CaseRun.shifted (run : CaseRun) (code : Nat) : Nat :=
  (code + run.shift).toNat

/-- The code points that change in lower case. -/
def lowerSources : List Nat :=
  lowerRuns.flatMap CaseRun.codes ++ lowerExpansions.map Prod.fst

/-- The code points that others change to, with the final sigma. -/
def lowerTargets : List Nat :=
  0x3C2 :: (lowerRuns.flatMap fun run => run.codes.map run.shifted) ++
    lowerExpansions.flatMap Prod.snd

theorem lowerSources_disjoint : bitsOf lowerSources &&& bitsOf lowerTargets = 0 := by
  decide +kernel

theorem CaseRun.imageOf?_eq_some {run : CaseRun} {code other : Nat}
    (h : run.imageOf? code = some other) :
    code ∈ run.codes ∧ other = run.shifted code := by
  simp only [imageOf?] at h
  split at h
  · rename_i hcode
    simp only [Bool.and_eq_true, decide_eq_true_eq] at hcode
    cases h
    refine ⟨List.mem_range'.mpr ⟨(code - run.first) / run.stride, ?_, ?_⟩, rfl⟩
    · have := Nat.div_le_div_right (c := run.stride) (Nat.sub_le_sub_right hcode.1.2 run.first)
      omega
    · rw [Nat.mul_div_cancel' (Nat.dvd_of_mod_eq_zero hcode.2)]
      omega
  · cases h

theorem isValidChar_lowerTargets : ∀ code ∈ lowerTargets, code.isValidChar := by
  decide +kernel

theorem lowerImage_of_not_mem {c : Char} (h : c.toNat ∉ lowerSources) : lowerImage c = [c] := by
  simp only [lowerSources, List.mem_append, List.mem_flatMap, List.mem_map, not_or, not_exists,
    not_and] at h
  have hlookup : lowerExpansions.lookup c.toNat = none := by
    rw [List.lookup_eq_none_iff]
    intro entry hentry
    exact bne_iff_ne.mpr fun he => h.2 entry hentry he.symm
  have hfind : lowerRuns.findSome? (·.imageOf? c.toNat) = none := by
    rw [List.findSome?_eq_none_iff]
    intro run hrun
    rw [Option.eq_none_iff_forall_ne_some]
    intro other hother
    exact h.1 run hrun (CaseRun.imageOf?_eq_some hother).1
  simp only [lowerImage, image, hlookup, hfind]

theorem toNat_ofNat_lowerTargets {code : Nat} (h : code ∈ lowerTargets) :
    (Char.ofNat code).toNat = code := by
  rw [Char.ofNat, dif_pos (isValidChar_lowerTargets code h)]
  rfl

/-- A character is its own image, or it is a source and its image consists of targets. -/
theorem mem_lowerImage {c d : Char} (h : d ∈ lowerImage c) :
    d = c ∧ lowerImage c = [c] ∨ c.toNat ∈ lowerSources ∧ d.toNat ∈ lowerTargets := by
  cases hlookup : lowerExpansions.lookup c.toNat with
  | some codes =>
    obtain ⟨before, after, hentries, _⟩ := List.lookup_eq_some_iff.mp hlookup
    have hentry : (c.toNat, codes) ∈ lowerExpansions := by simp [hentries]
    simp only [lowerImage, image, hlookup] at h
    obtain ⟨code, hcode, rfl⟩ := List.mem_map.mp h
    have htarget : code ∈ lowerTargets :=
      List.mem_append_right _ (List.mem_flatMap.mpr ⟨_, hentry, hcode⟩)
    refine .inr ⟨List.mem_append_right _ (List.mem_map.mpr ⟨_, hentry, rfl⟩), ?_⟩
    rwa [toNat_ofNat_lowerTargets htarget]
  | none =>
    cases hfind : lowerRuns.findSome? (·.imageOf? c.toNat) with
    | some code =>
      obtain ⟨run, hrun, himage⟩ := List.exists_of_findSome?_eq_some hfind
      obtain ⟨hsource, rfl⟩ := CaseRun.imageOf?_eq_some himage
      simp only [lowerImage, image, hlookup, hfind, List.mem_singleton] at h
      have htarget : run.shifted c.toNat ∈ lowerTargets :=
        List.mem_append_left _ (List.mem_cons_of_mem _
          (List.mem_flatMap.mpr ⟨run, hrun, List.mem_map_of_mem hsource⟩))
      refine .inr ⟨List.mem_append_left _ (List.mem_flatMap.mpr ⟨run, hrun, hsource⟩), ?_⟩
      rwa [h, toNat_ofNat_lowerTargets htarget]
    | none =>
      have himage : lowerImage c = [c] := by simp only [lowerImage, image, hlookup, hfind]
      rw [himage, List.mem_singleton] at h
      exact .inl ⟨h, himage⟩

theorem lowerImage_of_mem_lowerTargets {c : Char} (h : c.toNat ∈ lowerTargets) :
    lowerImage c = [c] :=
  lowerImage_of_not_mem fun hsource => not_mem_of_bitsOf lowerSources_disjoint hsource h

theorem lowerImage_of_mem_lowerImage {c d : Char} (h : d ∈ lowerImage c) : lowerImage d = [d] := by
  rcases mem_lowerImage h with ⟨rfl, hself⟩ | ⟨_, htarget⟩
  · exact hself
  · exact lowerImage_of_mem_lowerTargets htarget

/-! ## Ranges without case -/

/-- The code points in some ranges. -/
def codesIn (ranges : List (Nat × Nat)) : List Nat :=
  ranges.flatMap fun (first, last) => List.range' first (last + 1 - first)

/-- No character of the ranges changes in lower case, and none is changed to. -/
def Caseless (ranges : List (Nat × Nat)) : Prop :=
  bitsOf (codesIn ranges) &&& bitsOf (lowerSources ++ lowerTargets) = 0

instance (ranges : List (Nat × Nat)) : Decidable (Caseless ranges) :=
  inferInstanceAs (Decidable (_ = _))

theorem caseless_blankRanges : Caseless blankRanges := by
  decide +kernel

theorem mem_codesIn {ranges : List (Nat × Nat)} {c : Char} (h : inRanges ranges c = true) :
    c.toNat ∈ codesIn ranges := by
  obtain ⟨range, hrange, hfirst, hlast⟩ := inRanges_iff.mp h
  refine List.mem_flatMap.mpr ⟨range, hrange, List.mem_range'_1.mpr ?_⟩
  omega

section
variable {ranges : List (Nat × Nat)} (h : Caseless ranges)
include h

theorem Caseless.inRanges_eq_false {c : Char} (hc : c.toNat ∈ lowerSources ++ lowerTargets) :
    inRanges ranges c = false := by
  rw [Bool.eq_false_iff]
  intro hmem
  exact not_mem_of_bitsOf h (mem_codesIn hmem) hc

theorem Caseless.inRanges_of_mem_lowerImage {c d : Char} (hd : d ∈ lowerImage c) :
    inRanges ranges d = inRanges ranges c := by
  rcases mem_lowerImage hd with ⟨rfl, _⟩ | ⟨hsource, htarget⟩
  · rfl
  · rw [h.inRanges_eq_false (List.mem_append_right _ htarget),
      h.inRanges_eq_false (List.mem_append_left _ hsource)]

end

end Unicode

namespace Text

open Unicode

/-! ## Texts -/

/-- What a character can become in lower case, wherever it stands. -/
structure LowersTo (c : Char) (piece : Text) : Prop where
  ne_nil : piece ≠ []
  lowerImage_eq : ∀ d ∈ piece, lowerImage d = [d]
  inRanges_eq : ∀ ranges, Caseless ranges → ∀ d ∈ piece, inRanges ranges d = inRanges ranges c

theorem lowersTo_lowerImage (c : Char) : LowersTo c (lowerImage c) where
  ne_nil := lowerImage_ne_nil c
  lowerImage_eq _ hd := lowerImage_of_mem_lowerImage hd
  inRanges_eq _ h _ hd := h.inRanges_of_mem_lowerImage hd

theorem lowersTo_finalSigma : LowersTo 'Σ' ['ς'] := by
  have hsource : 'Σ'.toNat ∈ lowerSources := by decide
  have htarget : 'ς'.toNat ∈ lowerTargets := by decide
  refine ⟨by simp, ?_, ?_⟩
  · intro d hd
    rw [List.mem_singleton.mp hd]
    exact lowerImage_of_mem_lowerTargets htarget
  · intro ranges h d hd
    rw [List.mem_singleton.mp hd, h.inRanges_eq_false (List.mem_append_right _ htarget),
      h.inRanges_eq_false (List.mem_append_left _ hsource)]

theorem exists_lowerAfter_cons (before : Text) (c : Char) (rest : Text) :
    ∃ piece, LowersTo c piece ∧
      lowerAfter before (c :: rest) = piece ++ lowerAfter (c :: before) rest := by
  simp only [lowerAfter]
  split
  · rename_i hc
    subst hc
    split
    · exact ⟨['ς'], lowersTo_finalSigma, rfl⟩
    · have hsigma : lowerImage 'Σ' = ['σ'] := by decide
      exact ⟨['σ'], hsigma ▸ lowersTo_lowerImage 'Σ', rfl⟩
  · exact ⟨lowerImage c, lowersTo_lowerImage c, rfl⟩

theorem lowerImage_of_mem_lowerAfter {before t : Text} {d : Char} (h : d ∈ lowerAfter before t) :
    lowerImage d = [d] := by
  induction t generalizing before with
  | nil => cases h
  | cons c t ih =>
    obtain ⟨piece, hpiece, heq⟩ := exists_lowerAfter_cons before c t
    rw [heq] at h
    rcases List.mem_append.mp h with h | h
    · exact hpiece.lowerImage_eq d h
    · exact ih h

theorem lowerAfter_of_lowerImage {t : Text} (h : ∀ c ∈ t, lowerImage c = [c]) (before : Text) :
    lowerAfter before t = t := by
  induction t generalizing before with
  | nil => rfl
  | cons c t ih =>
    obtain ⟨hc, ht⟩ := List.forall_mem_cons.mp h
    have hsigma : c ≠ 'Σ' := by
      rintro rfl
      exact absurd hc (by decide)
    simp [lowerAfter, hsigma, hc, ih ht]

theorem lower_of_lowerImage {t : Text} (h : ∀ c ∈ t, lowerImage c = [c]) : lower t = t :=
  lowerAfter_of_lowerImage h []

section
variable {ranges : List (Nat × Nat)} (h : Caseless ranges)
include h

theorem inRanges_of_mem_lowerAfter {before t : Text} {d : Char} (hd : d ∈ lowerAfter before t) :
    ∃ c ∈ t, inRanges ranges d = inRanges ranges c := by
  induction t generalizing before with
  | nil => cases hd
  | cons c t ih =>
    obtain ⟨piece, hpiece, heq⟩ := exists_lowerAfter_cons before c t
    rw [heq] at hd
    rcases List.mem_append.mp hd with hd | hd
    · exact ⟨c, List.mem_cons_self, hpiece.inRanges_eq ranges h d hd⟩
    · obtain ⟨e, he, heq⟩ := ih hd
      exact ⟨e, List.mem_cons_of_mem c he, heq⟩

theorem head?_lowerAfter (before t : Text) :
    (lowerAfter before t).head?.map (inRanges ranges) = t.head?.map (inRanges ranges) := by
  cases t with
  | nil => rfl
  | cons c t =>
    obtain ⟨piece, hpiece, heq⟩ := exists_lowerAfter_cons before c t
    obtain ⟨d, piece, rfl⟩ := List.exists_cons_of_ne_nil hpiece.ne_nil
    rw [heq]
    simp [hpiece.inRanges_eq ranges h d]

theorem getLast?_lowerAfter (before t : Text) :
    (lowerAfter before t).getLast?.map (inRanges ranges) = t.getLast?.map (inRanges ranges) := by
  induction t generalizing before with
  | nil => rfl
  | cons c t ih =>
    obtain ⟨piece, hpiece, heq⟩ := exists_lowerAfter_cons before c t
    rw [heq, List.getLast?_append]
    cases t with
    | nil =>
      have hlast : piece.getLast? = some (piece.getLast hpiece.ne_nil) :=
        List.getLast?_eq_some_getLast hpiece.ne_nil
      simp [lowerAfter, hlast, hpiece.inRanges_eq ranges h _ (List.getLast_mem hpiece.ne_nil)]
    | cons e t =>
      have hne : lowerAfter (c :: before) (e :: t) ≠ [] := by simp [lowerAfter_eq_nil_iff]
      have hrest := ih (c :: before)
      rw [List.getLast?_eq_some_getLast hne] at hrest ⊢
      rw [Option.some_or, hrest, List.getLast?_cons_cons]

end

theorem trimmed_iff (t : Text) :
    Trimmed t ↔ t.head?.map isBlank ≠ some true ∧ t.getLast?.map isBlank ≠ some true := by
  simp [Trimmed]

/-- Lower case neither adds white space at the ends of a text nor takes any away. -/
theorem trimmed_lower_iff (t : Text) : Trimmed (lower t) ↔ Trimmed t := by
  have hblank : isBlank = inRanges blankRanges := rfl
  rw [trimmed_iff, trimmed_iff, hblank, lower, head?_lowerAfter caseless_blankRanges,
    getLast?_lowerAfter caseless_blankRanges]

end Text
end Phrasebook
