import Phrasebook.Proofs.Translator.Answers
import Phrasebook.Proofs.Variant.Forms

/-!
# Phrasebook.Proofs.Translator.Fallback

Counting with a message of the fallback. The message is the fallback's, but its variant is that of
the plural form of the locale that the call names.

* `translateCount_result`: a counted message is the text for the plural form of the call's locale,
  with its placeholders filled in.
* `translateCount_of_fallback`: what this means for a message that only the fallback has.
* `fallback_form_not_used`: Japanese has a single form, so it shows an English plural in the
  singular.
-/

namespace Phrasebook
namespace Translator

/-- What is shown of a message for a count and a plural form, if nothing stands in the way: a number in
the message or a count that is too long, or a value without a text. -/
def shownAt (message : Text) (count : Int) (replacements : Template.Replacements)
    (position : Nat) : Except Numeral.IntegerError Text :=
  Variant.textAt message count position >>= fun text =>
    Template.expand text (countReplacements count replacements)

theorem translateCount_result (translator : Translator) (key : Text) (count : Int)
    (replacements : Template.Replacements) (named : Text) :
    (translator.translateCount key count replacements named).result =
      shownAt (translator.messageOrKey key named).result count replacements
        (Plural.position count (Locale.normalize (translator.effective named))) := by
  rw [translateCount, shownAt, ← Variant.choose_text]
  cases Variant.choose (translator.messageOrKey key named).result count
      (Locale.normalize (translator.effective named)) with
  | error e => rfl
  | ok selection => rfl

theorem messageOrKey_result (translator : Translator) (key named : Text) :
    (translator.messageOrKey key named).result =
      (translator.message? key named).result.getD key := by
  rw [messageOrKey]
  cases (translator.message? key named).result <;> rfl

@[simp]
theorem effective_of_ne_nil (translator : Translator) {named : Text} (h : named ≠ []) :
    translator.effective named = named :=
  if_neg h

/-- **The plural form is that of the named locale.** Where a locale has no message for a key and the
fallback has one, counting in that locale shows the fallback's message at the plural form of the
named locale, and counting in the fallback shows it at the form of the fallback. The two agree just
when a guard decides, or the variants of the two forms are shown alike or fail alike. -/
theorem translateCount_of_fallback {translator : Translator} {key named message : Text}
    (hnamed : named ≠ []) (hfallback : translator.fallback ≠ [])
    (habsent : translator.messageIn? named key = none)
    (hpresent : translator.messageIn? translator.fallback key = some message)
    (count : Int) (replacements : Template.Replacements) :
    let form := fun locale => Plural.position count (Locale.normalize locale)
    let fill := fun text => Template.expand text (countReplacements count replacements)
    (translator.translateCount key count replacements named).result =
        shownAt message count replacements (form named) ∧
    (translator.translateCount key count replacements translator.fallback).result =
        shownAt message count replacements (form translator.fallback) ∧
    ((translator.translateCount key count replacements named).result =
        (translator.translateCount key count replacements translator.fallback).result ↔
      ∀ variants,
        Variant.guarding count (Variant.segments message) = .ok (.standard variants) →
        (Variant.formText message count variants (form named) >>= fill) =
          (Variant.formText message count variants (form translator.fallback) >>= fill)) := by
  intro form fill
  have hfound : (translator.messageOrKey key named).result = message := by
    rw [messageOrKey_result, message?_result, effective_of_ne_nil _ hnamed, habsent, hpresent]
    rfl
  have hown : (translator.messageOrKey key translator.fallback).result = message := by
    rw [messageOrKey_result, message?_result, effective_of_ne_nil _ hfallback, hpresent]
    rfl
  have hthere : (translator.translateCount key count replacements named).result =
      shownAt message count replacements (form named) := by
    rw [translateCount_result, hfound, effective_of_ne_nil _ hnamed]
  have hhere : (translator.translateCount key count replacements translator.fallback).result =
      shownAt message count replacements (form translator.fallback) := by
    rw [translateCount_result, hown, effective_of_ne_nil _ hfallback]
  refine ⟨hthere, hhere, ?_⟩
  rw [hthere, hhere]
  exact Variant.textAt_bind_eq_iff fill message count _ _

def englishOnly : List (Text × List (MapKey × Value)) :=
  [("en".toList,
    [(.text "cart".toList, .mapping [(.text "n".toList, .text "apple|apples".toList)])])]

/-- A single apple is counted alike in both. -/
theorem translateCount_of_fallback_single :
    ∃ translator, run englishOnly [] "en".toList [] = .ok translator ∧
      (translator.translateCount "cart.n".toList 1 .empty "ja".toList).result =
        (translator.translateCount "cart.n".toList 1 .empty translator.fallback).result := by
  refine ⟨_, rfl, ?_⟩
  refine (translateCount_of_fallback (by decide) (by decide) rfl rfl 1 .empty).2.2.mpr ?_
  intro variants _
  rfl

theorem fallback_form_not_used :
    ∃ translator, run englishOnly [] "en".toList [] = .ok translator ∧
      translator.messageIn? "ja".toList "cart.n".toList = none ∧
      translator.messageIn? translator.fallback "cart.n".toList = some "apple|apples".toList ∧
      (translator.translateCount "cart.n".toList 2 .empty "ja".toList).result =
        .ok "apple".toList ∧
      (translator.translateCount "cart.n".toList 2 .empty translator.fallback).result =
        .ok "apples".toList :=
  ⟨_, rfl, rfl, rfl, rfl, rfl⟩

end Translator
end Phrasebook
