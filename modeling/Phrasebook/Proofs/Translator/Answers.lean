import Phrasebook.Proofs.Translator.History

/-!
# Phrasebook.Proofs.Translator.Answers

What a translator answers after a run, read off the history of the run.

* `locales_run`: the two locales are those that were assigned last.
* `lookup_run`: a key is looked up among the latest messages of the additions: first those for the
  locale of the call, then those for the fallback.
-/

namespace Phrasebook
namespace Translator

def Operation.locale? : Operation → Option Text
  | setLocale locale => some locale
  | _ => none

def Operation.fallback? : Operation → Option Text
  | setFallback locale => some locale
  | _ => none

/-- The locale that was assigned last. -/
def lastAssigned (field : Operation → Option Text) (operations : List Operation) (start : Text) :
    Text :=
  (operations.reverse.findSome? field).getD start

theorem lastAssigned_cons (field : Operation → Option Text) (first : Operation)
    (rest : List Operation) (start : Text) :
    lastAssigned field (first :: rest) start =
      lastAssigned field rest ((field first).getD start) := by
  rw [lastAssigned, List.reverse_cons, List.findSome?_append, lastAssigned]
  cases rest.reverse.findSome? field with
  | some assigned => rfl
  | none =>
    rw [Option.none_or, List.findSome?_cons]
    cases field first <;> rfl

theorem add_keeps {translator next : Translator} {locale : Text}
    {entries : List (MapKey × Value)} (h : (translator.add locale entries).result = .ok next) :
    next.locale = translator.locale ∧ next.fallback = translator.fallback := by
  obtain ⟨messages, _, rfl⟩ := add_eq_ok.mp h
  exact ⟨rfl, rfl⟩

theorem apply_locales (translator : Translator) (operation : Operation) :
    (translator.apply operation).locale = operation.locale?.getD translator.locale ∧
      (translator.apply operation).fallback = operation.fallback?.getD translator.fallback := by
  cases operation with
  | add locale entries =>
    rw [apply]
    cases hadd : (translator.add locale entries).result with
    | error leaf => exact ⟨rfl, rfl⟩
    | ok next => exact add_keeps hadd
  | setLocale locale => exact ⟨rfl, rfl⟩
  | setFallback locale => exact ⟨rfl, rfl⟩

theorem applyAll_locales (translator : Translator) (operations : List Operation) :
    (translator.applyAll operations).locale =
        lastAssigned Operation.locale? operations translator.locale ∧
      (translator.applyAll operations).fallback =
        lastAssigned Operation.fallback? operations translator.fallback := by
  induction operations generalizing translator with
  | nil => exact ⟨rfl, rfl⟩
  | cons operation rest ih =>
    obtain ⟨hlocale, hfallback⟩ := apply_locales translator operation
    rw [lastAssigned_cons, lastAssigned_cons, ← hlocale, ← hfallback]
    exact ih (translator.apply operation)

theorem addAll_keeps {translator next : Translator}
    {catalogs : List (Text × List (MapKey × Value))}
    (h : (translator.addAll catalogs).result = .ok next) :
    next.locale = translator.locale ∧ next.fallback = translator.fallback := by
  induction catalogs generalizing translator with
  | nil => cases h; exact ⟨rfl, rfl⟩
  | cons entry rest ih =>
    rw [addAll] at h
    split at h
    · cases h
    · rename_i between events hadd
      have hbetween := add_keeps (congrArg (·.result) hadd)
      have hnext := ih h
      exact ⟨hnext.1.trans hbetween.1, hnext.2.trans hbetween.2⟩

section
variable {catalogs : List (Text × List (MapKey × Value))} {locale fallback : Text}
variable {operations : List Operation} {translator : Translator}

theorem locales_run (h : run catalogs locale fallback operations = .ok translator) :
    translator.locale =
        lastAssigned Operation.locale? operations (orElse locale builtInLocale) ∧
      translator.fallback =
        lastAssigned Operation.fallback? operations (orElse fallback builtInLocale) := by
  obtain ⟨built, hall, rfl⟩ := run_eq_ok.mp h
  obtain ⟨hlocale, hfallback⟩ := addAll_keeps hall
  have hops := applyAll_locales built operations
  rw [hlocale, hfallback] at hops
  exact hops

/-- The message of a call is that of its locale, else that of the fallback. -/
theorem message?_result (translator : Translator) (key named : Text) :
    (translator.message? key named).result =
      (translator.messageIn? (translator.effective named) key).or
        (translator.messageIn? translator.fallback key) := by
  rw [message?, lookup]
  cases hown : translator.messageIn? (translator.effective named) key with
  | some message => rfl
  | none =>
    by_cases h : translator.effective named = translator.fallback
    · -- The fallback is not searched again, and would have nothing.
      rw [← h, hown, if_pos rfl]
      rfl
    · rw [if_neg h]
      cases translator.messageIn? translator.fallback key <;> rfl

/-- **A run is looked up in its history.** After a translator was built and any operations happened
to it, some of them refused, take the locale that a call names, or the current one where it names
none. The translator has a key when an addition for exactly that locale contains it; the message of
the key is the one that the latest such addition gave to it, else the one of the latest addition for
the fallback, else there is none. The locales are those of the additions in the order in which they
first came. -/
theorem lookup_run (h : run catalogs locale fallback operations = .ok translator)
    (key named : Text) :
    let code := if named = [] then translator.locale else named
    (translator.has key named = true ↔
      ∃ addition ∈ additions catalogs operations,
        addition.locale = code ∧ addition.messages.contains key = true) ∧
    (translator.message? key named).result =
      (latest? (additions catalogs operations) code key).or
        (latest? (additions catalogs operations) translator.fallback key) ∧
    translator.locales =
      ((additions catalogs operations).map Addition.locale).eraseDups := by
  intro code
  have hcode : translator.effective named = code := rfl
  have hrun := run_reflects h
  refine ⟨?_, ?_, hrun.codes⟩
  · rw [has, hcode, hrun.messages]
    exact latest?_isSome_iff _ _ _
  · rw [message?_result, hcode, hrun.messages, hrun.messages]

end

/-- The second addition for `fr` gives the empty message, the third one is refused. -/
def sampleOperations : List Operation :=
  [.add "fr".toList [(.text "greeting".toList, .text [])],
    .add "fr".toList [(.text "greeting".toList, .text "salut".toList), (.text [], .boolean true)],
    .setLocale "fr".toList,
    .setFallback "de".toList,
    .add "de".toList [(.text "cart".toList, .mapping [(.text "n".toList, .text "Artikel".toList)])]]

def sampleCatalogs : List (Text × List (MapKey × Value)) :=
  [("fr".toList, [(.text "greeting".toList, .text "bonjour".toList)]),
    ("en".toList, [(.text "cart".toList, .mapping [(.text "n".toList, .text "items".toList)])])]

theorem lookup_run_sample :
    ∃ translator, run sampleCatalogs [] [] sampleOperations = .ok translator ∧
      (translator.message? "greeting".toList []).result = some [] ∧
      (translator.message? "cart.n".toList []).result = some "Artikel".toList ∧
      translator.has "cart.n".toList [] = false ∧
      translator.locales = ["fr".toList, "en".toList, "de".toList] := by
  refine ⟨_, rfl, ?_⟩
  have greeting := lookup_run (rfl : run sampleCatalogs [] [] sampleOperations = .ok _)
    "greeting".toList []
  have items := lookup_run (rfl : run sampleCatalogs [] [] sampleOperations = .ok _)
    "cart.n".toList []
  refine ⟨greeting.2.1.trans rfl, items.2.1.trans rfl, ?_, greeting.2.2.trans (by decide)⟩
  rw [Bool.eq_false_iff, ne_eq, items.1]
  decide

end Translator
end Phrasebook
