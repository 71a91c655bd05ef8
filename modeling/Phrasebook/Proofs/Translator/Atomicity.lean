import Phrasebook.Proofs.Catalog.Messages
import Phrasebook.Proofs.Translator.History

/-!
# Phrasebook.Proofs.Translator.Atomicity

Adding messages to a translator happens as a whole or not at all, and in one catalog only.

* `addInPlace_run`: an addition in steps does what an addition at once does. In particular, one that
  fails has changed nothing.
* `Adds`: what an addition changes, and all that it leaves as it was; `addMessages_adds`.
* `applyAll_filter_accepted`: refused additions leave no trace in what happens to a translator.

`add_all_or_nothing` says which of the two happens.
-/

namespace Phrasebook
namespace Translator

open Catalog (places Place)

/-! ## The steps of an addition -/

theorem mergeInto_register (translator : Translator) (code : Text) (messages : Dictionary Text) :
    (translator.register code).mergeInto code messages = translator.addMessages code messages := by
  cases hcatalog : translator.catalogs.get? code with
  | some catalog => simp [register, mergeInto, addMessages, hcatalog]
  | none =>
    have hempty : (translator.catalogs.insert code (.empty code)).get? code =
        some (Catalog.empty code) := by
      simp
    simp [register, mergeInto, addMessages, hcatalog, hempty]

theorem addInPlace_run (translator : Translator) (code : Text) (entries : List (MapKey × Value)) :
    (addInPlace code entries).run translator =
      match (translator.add code entries).result with
      | .ok next => .ok () next
      | .error leaf => .error leaf translator := by
  rw [add_result]
  cases hflat : Catalog.flatten [] entries with
  | error leaf =>
    rw [addInPlace, hflat]
    rfl
  | ok messages =>
    rw [addInPlace, hflat, Except.map, ← mergeInto_register]
    rfl

/-! ## What an addition changes -/

def messagesOf (translator : Translator) (code : Text) : Dictionary Text :=
  ((translator.catalogs.get? code).map Catalog.messages).getD .empty

/-- The old messages with new ones over them: a key that is there keeps its place. -/
structure Overrides (old new result : Dictionary Text) : Prop where
  get? : ∀ key, result.get? key = (new.get? key).or (old.get? key)
  keys : result.keys = old.keys ++ new.keys.filter fun key => key ∉ old.keys

/-- Only the catalog for the code is another one, and the code comes last if it is new. -/
structure Adds (before : Translator) (code : Text) (messages : Dictionary Text)
    (after : Translator) : Prop where
  locale : after.locale = before.locale
  fallback : after.fallback = before.fallback
  others : ∀ other, other ≠ code → after.catalogs.get? other = before.catalogs.get? other
  name : (after.catalogs.get? code).map Catalog.locale =
    some (((before.catalogs.get? code).map Catalog.locale).getD code)
  overrides : Overrides (before.messagesOf code) messages (after.messagesOf code)
  codes : after.locales =
    if code ∈ before.locales then before.locales else before.locales ++ [code]

theorem addMessages_adds (translator : Translator) (code : Text) (messages : Dictionary Text) :
    Adds translator code messages (translator.addMessages code messages) := by
  have hcatalog : (translator.addMessages code messages).catalogs.get? code =
      some (((translator.catalogs.get? code).getD (.empty code)).merge ⟨code, messages⟩) := by
    rw [catalogs_addMessages, if_pos rfl]
  have hmessages : (translator.addMessages code messages).messagesOf code =
      (translator.messagesOf code).merge messages := by
    rw [messagesOf, hcatalog, messagesOf]
    cases translator.catalogs.get? code <;> rfl
  refine ⟨rfl, rfl, ?_, ?_, ?_, ?_⟩
  · intro other hother
    rw [catalogs_addMessages, if_neg hother]
  · rw [hcatalog]
    cases translator.catalogs.get? code <;> rfl
  · rw [hmessages]
    exact ⟨Dictionary.get?_merge _ _, Dictionary.keys_merge _ _⟩
  · exact Dictionary.keys_insert _ _ _

/-- **Messages are added as a whole or not at all.** If something in nested messages is no message,
then adding them fails, and the translator is what it was. Otherwise they are flattened and put into
the catalog for exactly the given locale, and nothing else changes. -/
theorem add_all_or_nothing (translator : Translator) (code : Text)
    (entries : List (MapKey × Value)) :
    ((∃ place ∈ places entries, ¬ place.IsMessage) →
      ∃ leaf, (translator.add code entries).result = .error leaf ∧
        (addInPlace code entries).run translator = .error leaf translator) ∧
    ((∀ place ∈ places entries, place.IsMessage) →
      ∃ messages after, Catalog.flatten [] entries = .ok messages ∧
        (translator.add code entries).result = .ok after ∧
        (addInPlace code entries).run translator = .ok () after ∧
        Adds translator code messages after) := by
  rw [addInPlace_run, add_result]
  constructor
  · intro hbad
    obtain ⟨before, bad, after, hplaces, hbefore, hbad⟩ := Catalog.exists_first_bad hbad
    rw [Catalog.flatten_of_bad hplaces hbefore hbad]
    exact ⟨_, rfl, rfl⟩
  · intro hmessages
    rw [Catalog.flatten_of_messages hmessages]
    exact ⟨_, _, rfl, rfl, rfl, addMessages_adds translator code _⟩

/-- A fault behind a good message keeps a new locale out; without the fault it comes last. -/
theorem add_all_or_nothing_shop :
    ∃ translator, run [("en".toList, Catalog.shopMessages)] [] [] [] = .ok translator ∧
      (∃ leaf, (addInPlace "de".toList Catalog.faultyMessages).run translator =
        .error leaf translator) ∧
      ∃ after, (addInPlace "de".toList Catalog.shopMessages).run translator = .ok () after ∧
        after.locales = ["en".toList, "de".toList] ∧
        after.catalogs.get? "en".toList = translator.catalogs.get? "en".toList := by
  refine ⟨_, rfl, ?_, ?_⟩
  · obtain ⟨leaf, _, hrun⟩ :=
      (add_all_or_nothing _ "de".toList Catalog.faultyMessages).1 (by decide)
    exact ⟨leaf, hrun⟩
  · obtain ⟨_, after, _, _, hrun, hadds⟩ :=
      (add_all_or_nothing _ "de".toList Catalog.shopMessages).2 (by decide)
    exact ⟨after, hrun, hadds.codes, hadds.others "en".toList (by decide)⟩

/-! ## Refused additions in a run -/

/-- The operation is no addition that fails. -/
def Operation.accepted : Operation → Bool
  | add _ entries => (Catalog.flatten [] entries).isOk
  | _ => true

theorem apply_of_not_accepted (translator : Translator) {operation : Operation}
    (h : operation.accepted = false) : translator.apply operation = translator := by
  cases operation with
  | add code entries =>
    simp only [Operation.accepted] at h
    rw [apply, add_result]
    cases hflat : Catalog.flatten [] entries with
    | error leaf => rfl
    | ok messages => rw [hflat] at h; cases h
  | setLocale locale => cases h
  | setFallback locale => cases h

theorem applyAll_filter_accepted (translator : Translator) (operations : List Operation) :
    translator.applyAll (operations.filter Operation.accepted) = translator.applyAll operations := by
  induction operations generalizing translator with
  | nil => rfl
  | cons operation rest ih =>
    cases haccepted : operation.accepted with
    | true =>
      rw [List.filter_cons_of_pos haccepted]
      exact ih (translator.apply operation)
    | false =>
      have hsame := apply_of_not_accepted translator haccepted
      rw [List.filter_cons_of_neg (by simp [haccepted]), ih]
      show translator.applyAll rest = (translator.apply operation).applyAll rest
      rw [hsame]

end Translator
end Phrasebook
