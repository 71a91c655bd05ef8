import Phrasebook.Proofs.Numeral.Writing
import Phrasebook.Proofs.Template.Unused
import Phrasebook.Proofs.Text.Ascii
import Phrasebook.Proofs.Translator.History

/-!
# Phrasebook.Proofs.Translator.CountName

The number of a count, and the value that a caller gives for its name. Values are told apart by their
names as they are written, placeholders without regard to case: a value for `Count` does not take the
place of the number, and the pass for `count` comes before its own.

* `apply_decimal`: a number is the same in every casing.
* `countReplacements_of_mem`: a value for exactly the name of the count leaves nothing of the number.
* `byLength_countReplacements`, `fill_countReplacements`: without one, the number has the first pass
  among the names of its length.
* `exists_number_shown`: a placeholder that is left for this pass shows what the number is, unless there
  are so many names that they may take away all of its digits.
* `translateCount_of_named`: two counts that take the same variant show the same if the caller names
  the count as it is written, or if no placeholder is left for the number.
* `translateCount_other_casing`: a value for the name in another casing does not help.
-/

namespace Phrasebook

/-! ## Numbers as values -/

namespace Numeral

open Unicode

theorem upperImage_of_isDigit {c : Char} (h : c.isDigit = true) : upperImage c = [c] := by
  have hrange : 48 ≤ c.toNat ∧ c.toNat ≤ 57 := by
    simpa [Char.isDigit, UInt32.le_iff_toNat_le] using h
  have hascii : c.toNat < 128 := by omega
  rw [upperImage_of_ascii hascii, (toUpper_eq_self_iff hascii).mpr (isLower_of_isDigit hascii h)]

theorem apply_decimal (n : Int) (casing : Casing) : casing.apply (decimal n) = decimal n := by
  have hdigits : ∀ k : Nat, ∀ c ∈ Nat.toDigits 10 k, upperImage c = [c] := fun k c hc =>
    upperImage_of_isDigit (Nat.isDigit_of_mem_toDigits (by decide) (by decide) hc)
  apply Casing.apply_eq_self
  intro c hc
  cases n with
  | ofNat k => exact hdigits k c hc
  | negSucc k =>
    rcases List.mem_cons.mp hc with rfl | hc
    · decide
    · exact hdigits (k + 1) c hc

end Numeral

namespace Translator

open Template

/-! ## The value of the count -/

theorem mem_keys_count_iff (key : Text) (count : Int) :
    key ∈ (Dictionary.ofList [(countName, Value.integer count)]).keys ↔ key = countName := by
  show key ∈ [countName] ↔ key = countName
  exact List.mem_singleton

theorem countReplacements_of_mem {replacements : Replacements} (h : countName ∈ replacements.keys)
    (one other : Int) :
    countReplacements one replacements = countReplacements other replacements := by
  have hvalue : Dictionary.ofList [(countName, Value.integer one)] =
      (Dictionary.ofList [(countName, .integer other)]).insert countName (.integer one) :=
    (Dictionary.insert_insert .empty countName (Value.integer one) (Value.integer other)).symm
  rw [countReplacements, Dictionary.merge, hvalue]
  exact Dictionary.insert_insertAll_of_mem ((mem_keys_count_iff countName other).mpr rfl) h

section
variable {replacements : Replacements} (h : countName ∉ replacements.keys)
include h

theorem entries_countReplacements (count : Int) :
    (countReplacements count replacements).entries =
      (countName, .integer count) :: replacements.entries := by
  refine Dictionary.entries_insertAll replacements.nodup ?_
  intro key hkey hcount
  rw [mem_keys_count_iff] at hcount
  exact h (hcount ▸ hkey)

/-- The number of a count comes behind the longer names and in front of all others, those with the
same letters in another casing among them. -/
theorem byLength_countReplacements (count : Int) :
    byLength (countReplacements count replacements) =
      (byLength replacements).filter (fun entry => countName.length < entry.1.length) ++
        (countName, .integer count) ::
          (byLength replacements).filter (fun entry => entry.1.length ≤ countName.length) := by
  have hne : countName ≠ [] := by decide
  rw [byLength, entries_countReplacements h, Ranking.ranked,
    Ranking.insert_eq byLength_trans _ (Ranking.pairwise_ranked byLength_total byLength_trans _),
    List.filter_append, List.filter_cons_of_pos (by simpa using hne), byLength,
    List.filter_filter, List.filter_filter, List.filter_filter, List.filter_filter]
  congr 1
  · apply List.filter_congr
    intro entry _
    rw [Bool.eq_iff_iff]
    simp [and_comm]
  · congr 1
    apply List.filter_congr
    intro entry _
    rw [Bool.eq_iff_iff]
    simp [and_comm]

end

/-- The text in which the number of a count is filled in: the longer names had their passes. -/
def beforeNumber (replacements : Replacements) (text : Text) : Text :=
  passes text ((byLength replacements).filter fun entry => countName.length < entry.1.length)

/-- The names whose passes come after the number. -/
def afterNumber (replacements : Replacements) : List (Text × Value) :=
  (byLength replacements).filter fun entry => entry.1.length ≤ countName.length

section
variable {replacements : Replacements} (h : countName ∉ replacements.keys)
include h

theorem fill_countReplacements (text : Text) (count : Int) :
    fill text (countReplacements count replacements) =
      passes (substitute (beforeNumber replacements text) countName (Value.integer count).shown)
        (afterNumber replacements) := by
  rw [fill, byLength_countReplacements h, passes_append, passes_cons]
  rfl

theorem haveTexts_countReplacements_iff (count : Int) :
    HaveTexts (byLength (countReplacements count replacements)) ↔
      Numeral.Writable count ∧ HaveTexts (byLength replacements) := by
  have hsplit : HaveTexts (byLength replacements) ↔
      HaveTexts ((byLength replacements).filter fun entry => countName.length < entry.1.length) ∧
        HaveTexts (afterNumber replacements) := by
    simp only [HaveTexts, afterNumber, List.mem_filter, decide_eq_true_iff, and_imp]
    constructor
    · intro hall
      exact ⟨fun entry hentry _ => hall entry hentry, fun entry hentry _ => hall entry hentry⟩
    · rintro ⟨hlonger, hothers⟩ entry hentry
      rcases Nat.lt_or_ge countName.length entry.1.length with hlength | hlength
      · exact hlonger entry hentry hlength
      · exact hothers entry hentry hlength
  rw [hsplit, byLength_countReplacements h, haveTexts_append, haveTexts_cons,
    Value.hasText_integer_iff]
  exact and_left_comm

theorem expand_of_not_writable {count : Int} (hcount : ¬ Numeral.Writable count) (text : Text) :
    expand text (countReplacements count replacements) = .error .unwritable := by
  apply expand_of_not_haveTexts
  rw [haveTexts_countReplacements_iff h]
  exact fun htexts => hcount htexts.1

theorem expand_of_no_number {text : Text}
    (hnone : occurs countName (beforeNumber replacements text) = false) {one other : Int}
    (hwritten : Numeral.Writable one ↔ Numeral.Writable other) :
    expand text (countReplacements one replacements) =
      expand text (countReplacements other replacements) := by
  simp only [expand_eq, haveTexts_countReplacements_iff h, hwritten, fill_countReplacements h,
    substitute_of_not_occurs hnone]

/-- A placeholder that is left for the number shows it: some other number makes a difference. Its digits
have to outlast the passes of the other names. -/
theorem exists_number_shown {text shown : Text} {one : Int}
    (hthere : occurs countName (beforeNumber replacements text) = true)
    (hshown : expand text (countReplacements one replacements) = .ok shown)
    (hroom : shown.length + namesLength (afterNumber replacements) + 1 < Numeral.digitLimit) :
    ∃ other, Numeral.Writable other ∧ ∃ different,
      expand text (countReplacements other replacements) = .ok different ∧ different ≠ shown := by
  obtain ⟨n, hn⟩ : ∃ n, n = shown.length + namesLength (afterNumber replacements) + 1 := ⟨_, rfl⟩
  have hwritable : Numeral.Writable (Nat.pow 10 n : Nat) :=
    Numeral.writable_pow_ten_iff.mpr (hn ▸ hroom)
  have hothers : HaveTexts (byLength replacements) := by
    by_contra hnone
    rw [expand_of_not_haveTexts fun htexts =>
      hnone ((haveTexts_countReplacements_iff h one).mp htexts).2] at hshown
    cases hshown
  have htexts := (haveTexts_countReplacements_iff h _).mpr ⟨hwritable, hothers⟩
  refine ⟨_, hwritable, _, expand_of_haveTexts htexts text, fun hsame => ?_⟩
  have hrun : List.replicate n '0' <:+: Numeral.decimal (Nat.pow 10 n : Nat) := by
    rw [Numeral.decimal_pow_ten]
    exact (List.suffix_cons _ _).isInfix
  have hlong := le_length_passes (by decide : '0' ≠ sentinel) hthere
    (Numeral.apply_decimal (Nat.pow 10 n : Nat)) hrun (afterNumber replacements)
  rw [← Value.shown_integer hwritable, ← fill_countReplacements h, hsame] at hlong
  omega

end

/-! ## Counting -/

/-- The text of the variant that a count takes of the message of a key. -/
def variantFor (translator : Translator) (key : Text) (count : Int) (named : Text) :
    Except Numeral.IntegerError Text :=
  (Variant.choose (translator.messageOrKey key named).result count
    (Locale.normalize (translator.effective named))).map Variant.Selection.text

theorem translateCount_variantFor (translator : Translator) (key : Text) (count : Int)
    (replacements : Replacements) (named : Text) :
    (translator.translateCount key count replacements named).result =
      translator.variantFor key count named >>= fun text =>
        expand text (countReplacements count replacements) := by
  rw [translateCount, variantFor]
  cases Variant.choose (translator.messageOrKey key named).result count
      (Locale.normalize (translator.effective named)) with
  | error e => rfl
  | ok selection => rfl

/-- **A caller's value for the count wins where it is named as the count is.** Let two counts take the
same variant of a message. If the caller has a value for exactly the name of the count, both show the
same. Otherwise a count that is not written shows nothing; for others, what is shown is the same if no
placeholder of this name is left when the longer names are filled in. Where there is one, the number
shows, whatever value the caller has for the name in another casing: the variant is not filled in alike
for all numbers. This is said of texts and names that are together shorter than the longest number. -/
theorem translateCount_of_named {translator : Translator} {key named text : Text} {one other : Int}
    (hone : translator.variantFor key one named = .ok text)
    (hother : translator.variantFor key other named = .ok text) (replacements : Replacements) :
    (countName ∈ replacements.keys →
      (translator.translateCount key one replacements named).result =
        (translator.translateCount key other replacements named).result) ∧
    (countName ∉ replacements.keys → ¬ Numeral.Writable one →
      (translator.translateCount key one replacements named).result = .error .unwritable) ∧
    (countName ∉ replacements.keys → (Numeral.Writable one ↔ Numeral.Writable other) →
      occurs countName (beforeNumber replacements text) = false →
      (translator.translateCount key one replacements named).result =
        (translator.translateCount key other replacements named).result) ∧
    (countName ∉ replacements.keys → occurs countName (beforeNumber replacements text) = true →
      ∀ shown, (translator.translateCount key one replacements named).result = .ok shown →
        shown.length + namesLength (afterNumber replacements) + 1 < Numeral.digitLimit →
        ∃ count, Numeral.Writable count ∧ ∃ different,
          expand text (countReplacements count replacements) = .ok different ∧
          different ≠ shown) := by
  rw [translateCount_variantFor, translateCount_variantFor, hone, hother, ok_bind, ok_bind]
  refine ⟨fun hkey => ?_, fun hkey hcount => expand_of_not_writable hkey hcount text,
    fun hkey hwritten hnone => expand_of_no_number hkey hnone hwritten,
    fun hkey hthere shown => exists_number_shown hkey hthere⟩
  rw [countReplacements_of_mem hkey other one]

def countedItems : List (Text × List (MapKey × Value)) :=
  [("en".toList, [(.text "items".toList, .text ":count item|:count items".toList)])]

def itemsTranslator : Translator :=
  (empty [] []).addMessages "en".toList
    (.ofList [("items".toList, ":count item|:count items".toList)])

/-- A word in place of a number, under a name of the caller's choice. -/
def several (name : Text) : Replacements :=
  .ofList [(name, .text "several".toList)]

theorem translateCount_of_named_several :
    run countedItems [] [] [] = .ok itemsTranslator ∧
      itemsTranslator.variantFor "items".toList 3 [] = .ok ":count items".toList ∧
      itemsTranslator.variantFor "items".toList 4 [] = .ok ":count items".toList ∧
      countName ∈ (several "count".toList).keys ∧
      (itemsTranslator.translateCount "items".toList 3 (several "count".toList) []).result =
        (itemsTranslator.translateCount "items".toList 4 (several "count".toList) []).result ∧
      countName ∉ (several "Count".toList).keys ∧
      occurs countName (beforeNumber (several "Count".toList) ":count items".toList) = true ∧
      ∃ count, Numeral.Writable count ∧ ∃ different,
        expand ":count items".toList (countReplacements count (several "Count".toList)) =
          .ok different ∧ different ≠ "3 items".toList := by
  have hthree : itemsTranslator.variantFor "items".toList 3 [] = .ok ":count items".toList := by
    decide +kernel
  have hfour : itemsTranslator.variantFor "items".toList 4 [] = .ok ":count items".toList := by
    decide +kernel
  have hkey : countName ∈ (several "count".toList).keys := by decide
  have hnone : countName ∉ (several "Count".toList).keys := by decide
  have hthere : occurs countName (beforeNumber (several "Count".toList) ":count items".toList) =
      true := by decide
  have hshown : (itemsTranslator.translateCount "items".toList 3 (several "Count".toList) []).result =
      .ok "3 items".toList := by decide +kernel
  have hnamed := translateCount_of_named hthree hfour (several "count".toList)
  have hother := (translateCount_of_named hthree hfour (several "Count".toList)).2.2.2
  exact ⟨rfl, hthree, hfour, hkey, hnamed.1 hkey, hnone, hthere,
    hother hnone hthere _ hshown (by decide)⟩

/-- The caller has a value for the count, and its name differs from that of the count in case only.
The number is shown all the same. -/
theorem translateCount_other_casing :
    run countedItems [] [] [] = .ok itemsTranslator ∧
      Text.equalIgnoringCase "Count".toList countName = true ∧
      itemsTranslator.variantFor "items".toList 3 [] = .ok ":count items".toList ∧
      itemsTranslator.variantFor "items".toList 4 [] = .ok ":count items".toList ∧
      (itemsTranslator.translateCount "items".toList 3 (several "Count".toList) []).result =
        .ok "3 items".toList ∧
      (itemsTranslator.translateCount "items".toList 4 (several "Count".toList) []).result =
        .ok "4 items".toList := by
  have hthree : itemsTranslator.variantFor "items".toList 3 [] = .ok ":count items".toList := by
    decide +kernel
  have hfour : itemsTranslator.variantFor "items".toList 4 [] = .ok ":count items".toList := by
    decide +kernel
  exact ⟨rfl, by decide +kernel, hthree, hfour, by decide +kernel, by decide +kernel⟩

end Translator
end Phrasebook
