import Phrasebook.Proofs.Numeral.Writing
import Phrasebook.Proofs.Translator.Fallback

/-!
# Phrasebook.Proofs.Translator.Counting

Counted messages beside plain ones. A message without variants, guard or label is counted by filling
in its placeholders, the count among them. The plural form has no part in what is shown. It decides
whether a log is told of the count, and that fails for a count that is not written.
-/

namespace Phrasebook
namespace Translator

/-- **Without variants, counting is translating.** Let the message of a key, or the key itself where
there is none, have no separator, no interval in front and no label or blanks to strip. Then counting
shows what translating shows with the count as the first value, unless the values have another one for
its name. This holds for the first plural form, and for the others if the count is written; if it is
not, they show nothing. -/
theorem translateCount_of_single {translator : Translator} {key named message : Text}
    (hmessage : (translator.messageOrKey key named).result = message)
    (hseparator : Variant.separator ∉ message)
    (hguard : Interval.parsePrefix? message = .ok none)
    (hlabel : Variant.stripLabel message = message)
    (count : Int) (replacements : Template.Replacements) :
    let position := Plural.position count (Locale.normalize (translator.effective named))
    (position = 0 ∨ Numeral.Writable count →
      (translator.translateCount key count replacements named).result =
        (translator.translate key
          ((Dictionary.ofList [(countName, .integer count)]).merge replacements) named).result) ∧
    (position ≠ 0 → ¬ Numeral.Writable count →
      (translator.translateCount key count replacements named).result = .error .unwritable) := by
  intro position
  have hcounted : (translator.translateCount key count replacements named).result =
      (if position = 0 then .ok message
        else (Numeral.writeInteger count).map fun _ => message) >>= fun text =>
          Template.expand text (countReplacements count replacements) := by
    rw [translateCount_result, hmessage, shownAt, Variant.textAt_of_single hseparator hguard, hlabel]
  rw [hcounted, translate, hmessage]
  refine ⟨fun htold => ?_, fun hform hcount => ?_⟩
  · have htext : (if position = 0 then .ok message
        else (Numeral.writeInteger count).map fun _ => message) = Except.ok message := by
      rcases htold with hform | hcount
      · exact if_pos hform
      · rw [Numeral.writeInteger_of_writable hcount]
        exact ite_self _
    rw [htext, ok_bind]
    rfl
  · rw [if_neg hform, Numeral.writeInteger_of_not_writable hcount]
    rfl

def russianOnly : List (Text × List (MapKey × Value)) :=
  [("ru".toList, [(.text "weight".toList, .text "about :count kg".toList)])]

/-- Five kilograms take the third form of Russian, and there is one variant. -/
theorem translateCount_of_single_russian :
    ∃ translator, run russianOnly [] [] [] = .ok translator ∧
      Variant.separator ∉ "about :count kg".toList ∧
      Interval.parsePrefix? "about :count kg".toList = .ok none ∧
      Variant.stripLabel "about :count kg".toList = "about :count kg".toList ∧
      Plural.position 5 "ru".toList = 2 ∧ Numeral.Writable 5 ∧
      (translator.translateCount "weight".toList 5 .empty "ru".toList).result =
        .ok "about 5 kg".toList := by
  have hseparator : Variant.separator ∉ "about :count kg".toList := by decide
  have hguard : Interval.parsePrefix? "about :count kg".toList = .ok none := rfl
  have hlabel : Variant.stripLabel "about :count kg".toList = "about :count kg".toList := by
    decide +kernel
  have hcount : Numeral.Writable 5 := by decide
  refine ⟨_, rfl, hseparator, hguard, hlabel, by decide, hcount, ?_⟩
  refine ((translateCount_of_single ?_ hseparator hguard hlabel 5 .empty).1 (.inr hcount)).trans ?_
  · rfl
  · decide +kernel

def plainOnly : List (Text × List (MapKey × Value)) :=
  [("en".toList, [(.text "k".toList, .text "x".toList)])]

/-- A word in place of the count. -/
def many : Template.Replacements :=
  .ofList [(countName, .text "many".toList)]

/-- The message has no placeholder and the caller has a word for the count, and counting fails. -/
theorem translateCount_overlong_count :
    ∃ translator, run plainOnly [] [] [] = .ok translator ∧
      (translator.messageOrKey "k".toList "en".toList).result = "x".toList ∧
      Variant.separator ∉ "x".toList ∧ Interval.parsePrefix? "x".toList = .ok none ∧
      Variant.stripLabel "x".toList = "x".toList ∧
      (translator.translate "k".toList
        ((Dictionary.ofList [(countName, .integer Numeral.overlongPower)]).merge many)
        "en".toList).result = .ok "x".toList ∧
      (translator.translateCount "k".toList Numeral.overlongPower many "en".toList).result =
        .error .unwritable := by
  have hseparator : Variant.separator ∉ "x".toList := by decide
  have hlabel : Variant.stripLabel "x".toList = "x".toList := by decide
  have hform : Variant.textAt "x".toList Numeral.overlongPower 1 = .error .unwritable := by
    rw [Variant.textAt_of_single hseparator rfl, if_neg Nat.one_ne_zero,
      Numeral.writeInteger_of_not_writable Numeral.not_writable_overlongPower]
    rfl
  have hposition : Plural.position Numeral.overlongPower "en".toList = 1 := by decide +kernel
  refine ⟨_, rfl, rfl, hseparator, rfl, hlabel, by decide, ?_⟩
  rw [translateCount_result]
  show (Variant.textAt "x".toList Numeral.overlongPower
    (Plural.position Numeral.overlongPower "en".toList) >>= _) = _
  rw [hposition, hform]
  rfl

end Translator
end Phrasebook
