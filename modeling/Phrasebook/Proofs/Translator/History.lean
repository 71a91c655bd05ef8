import Phrasebook.Proofs.Merge
import Phrasebook.Proofs.Outcome
import Phrasebook.Translator

/-!
# Phrasebook.Proofs.Translator.History

What happens to a translator, and what is remembered of it.

* `Operation`, `run`: the runs of a translator: it is built, then messages are added to it and its
  two locales are assigned, in any order. Messages that cannot be flattened are refused and leave the
  translator as it was.
* `additions`: the additions of a run that succeed, in their order.
* `latest?`: the message that the last addition for a locale gave to a key.
* `Reflects`: what a translator holds is what the additions say; `run_reflects` has it for every
  run.
-/

namespace Phrasebook
namespace Translator

inductive Operation where
  | add (locale : Text) (entries : List (MapKey × Value))
  | setLocale (locale : Text)
  | setFallback (locale : Text)

/-- The translator after an operation. -/
def apply (translator : Translator) : Operation → Translator
  | .add locale entries =>
    match (translator.add locale entries).result with
    | .error _ => translator
    | .ok next => next
  | .setLocale locale => translator.setLocale locale
  | .setFallback locale => translator.setFallback locale

def applyAll (translator : Translator) (operations : List Operation) : Translator :=
  operations.foldl apply translator

/-- A translator is built, then the operations happen to it. -/
def run (catalogs : List (Text × List (MapKey × Value))) (locale fallback : Text)
    (operations : List Operation) : Except Catalog.BadLeaf Translator :=
  (build catalogs locale fallback).result.map (·.applyAll operations)

/-! ## What is remembered -/

/-- Flat messages that were put into the catalog of a locale. -/
structure Addition where
  locale : Text
  messages : Dictionary Text

def addition? (locale : Text) (entries : List (MapKey × Value)) : Option Addition :=
  (Catalog.flatten [] entries).toOption.map (Addition.mk locale)

def Operation.addition? : Operation → Option Addition
  | add locale entries => Translator.addition? locale entries
  | _ => none

/-- The additions of a run that succeed. -/
def additions (catalogs : List (Text × List (MapKey × Value))) (operations : List Operation) :
    List Addition :=
  catalogs.filterMap (fun entry => addition? entry.1 entry.2) ++
    operations.filterMap Operation.addition?

/-- The message that the last of the additions for exactly the given locale gave to a key. -/
def latest? (additions : List Addition) (locale key : Text) : Option Text :=
  additions.reverse.findSome? fun addition =>
    if addition.locale = locale then addition.messages.get? key else none

theorem latest?_snoc (earlier : List Addition) (last : Addition) (locale key : Text) :
    latest? (earlier ++ [last]) locale key =
      (if last.locale = locale then last.messages.get? key else none).or
        (latest? earlier locale key) := by
  rw [latest?, List.reverse_append, List.findSome?_append]
  simp [latest?]

theorem latest?_isSome_iff (additions : List Addition) (locale key : Text) :
    (latest? additions locale key).isSome = true ↔
      ∃ addition ∈ additions,
        addition.locale = locale ∧ addition.messages.contains key = true := by
  rw [latest?, List.findSome?_isSome_iff]
  constructor
  · rintro ⟨addition, hmem, hsome⟩
    split at hsome
    · rename_i hlocale
      exact ⟨addition, List.mem_reverse.mp hmem, hlocale, hsome⟩
    · cases hsome
  · rintro ⟨addition, hmem, hlocale, hsome⟩
    refine ⟨addition, List.mem_reverse.mpr hmem, ?_⟩
    rw [if_pos hlocale]
    exact hsome

/-! ## What a translator holds -/

/-- The translator holds what the additions say: of each key the latest message, and catalogs for
exactly the locales of the additions in the order in which they first came. -/
structure Reflects (translator : Translator) (additions : List Addition) : Prop where
  messages : ∀ locale key, translator.messageIn? locale key = latest? additions locale key
  codes : translator.locales = (additions.map Addition.locale).eraseDups

theorem reflects_empty (locale fallback : Text) : (empty locale fallback).Reflects [] :=
  ⟨fun _ _ => rfl, rfl⟩

theorem catalogs_addMessages (translator : Translator) (locale code : Text)
    (messages : Dictionary Text) :
    (translator.addMessages locale messages).catalogs.get? code =
      if code = locale then
        some (((translator.catalogs.get? locale).getD (.empty locale)).merge ⟨locale, messages⟩)
      else translator.catalogs.get? code :=
  Dictionary.get?_insert translator.catalogs locale code _

theorem messageIn?_addMessages (translator : Translator) (locale code key : Text)
    (messages : Dictionary Text) :
    (translator.addMessages locale messages).messageIn? code key =
      (if locale = code then messages.get? key else none).or (translator.messageIn? code key) := by
  rw [messageIn?, catalogs_addMessages]
  by_cases h : locale = code
  · subst h
    rw [if_pos rfl, if_pos rfl, Option.bind_some, Catalog.get?_merge, messageIn?]
    -- A locale without a catalog gets an empty one, in which no key is found.
    cases translator.catalogs.get? locale with
    | none => rfl
    | some catalog => rfl
  · rw [if_neg (Ne.symm h), if_neg h, Option.none_or, messageIn?]

theorem Reflects.addMessages {translator : Translator} {earlier : List Addition}
    (h : translator.Reflects earlier) (locale : Text) (messages : Dictionary Text) :
    (translator.addMessages locale messages).Reflects (earlier ++ [⟨locale, messages⟩]) := by
  constructor
  · intro code key
    rw [messageIn?_addMessages, latest?_snoc, h.messages]
  · rw [List.map_append]
    exact Dictionary.insert_keys_eq_eraseDups h.codes locale _

/-- Messages are added just when they can be flattened. -/
theorem add_result (translator : Translator) (locale : Text) (entries : List (MapKey × Value)) :
    (translator.add locale entries).result =
      (Catalog.flatten [] entries).map (translator.addMessages locale) := by
  rw [add]
  cases Catalog.flatten [] entries <;> rfl

theorem add_eq_ok {translator next : Translator} {locale : Text}
    {entries : List (MapKey × Value)} :
    (translator.add locale entries).result = .ok next ↔
      ∃ messages, Catalog.flatten [] entries = .ok messages ∧
        translator.addMessages locale messages = next := by
  rw [add_result, map_eq_ok]

theorem Reflects.add {translator next : Translator} {earlier : List Addition}
    (h : translator.Reflects earlier) {locale : Text} {entries : List (MapKey × Value)}
    (hadd : (translator.add locale entries).result = .ok next) :
    next.Reflects (earlier ++ (addition? locale entries).toList) := by
  obtain ⟨messages, hflat, rfl⟩ := add_eq_ok.mp hadd
  have hsome : addition? locale entries = some ⟨locale, messages⟩ := by rw [addition?, hflat]; rfl
  rw [hsome]
  exact h.addMessages locale messages

theorem addition?_of_error {translator : Translator} {locale : Text}
    {entries : List (MapKey × Value)} {leaf : Catalog.BadLeaf}
    (h : (translator.add locale entries).result = .error leaf) : addition? locale entries = none := by
  rw [add_result, map_eq_error] at h
  rw [addition?, h]
  rfl

theorem Reflects.apply {translator : Translator} {earlier : List Addition}
    (h : translator.Reflects earlier) (operation : Operation) :
    (translator.apply operation).Reflects (earlier ++ operation.addition?.toList) := by
  cases operation with
  | add locale entries =>
    rw [Translator.apply]
    cases hadd : (translator.add locale entries).result with
    | ok next => exact h.add hadd
    | error leaf =>
      rw [Operation.addition?, addition?_of_error hadd, Option.toList_none, List.append_nil]
      exact h
  | setLocale locale =>
    have hnone : (Operation.setLocale locale).addition? = none := rfl
    rw [hnone, Option.toList_none, List.append_nil]
    exact ⟨h.messages, h.codes⟩
  | setFallback locale =>
    have hnone : (Operation.setFallback locale).addition? = none := rfl
    rw [hnone, Option.toList_none, List.append_nil]
    exact ⟨h.messages, h.codes⟩

theorem filterMap_cons_toList {α β : Type} (f : α → Option β) (first : α) (rest : List α) :
    (first :: rest).filterMap f = (f first).toList ++ rest.filterMap f := by
  cases h : f first with
  | none => rw [List.filterMap_cons_none h]; rfl
  | some b => rw [List.filterMap_cons_some h]; rfl

theorem Reflects.applyAll {translator : Translator} {earlier : List Addition}
    (h : translator.Reflects earlier) (operations : List Operation) :
    (translator.applyAll operations).Reflects
      (earlier ++ operations.filterMap Operation.addition?) := by
  induction operations generalizing translator earlier with
  | nil =>
    rw [List.filterMap_nil, List.append_nil]
    exact h
  | cons operation rest ih =>
    rw [filterMap_cons_toList, ← List.append_assoc]
    exact ih (h.apply operation)

/-- The catalogs of a new translator are added one after another; all of them succeed where the
translator is built. -/
theorem Reflects.addAll {translator next : Translator} {earlier : List Addition}
    (h : translator.Reflects earlier) {catalogs : List (Text × List (MapKey × Value))}
    (hall : (translator.addAll catalogs).result = .ok next) :
    next.Reflects (earlier ++ catalogs.filterMap fun entry => addition? entry.1 entry.2) := by
  induction catalogs generalizing translator earlier with
  | nil =>
    cases hall
    rw [List.filterMap_nil, List.append_nil]
    exact h
  | cons entry rest ih =>
    obtain ⟨locale, entries⟩ := entry
    rw [Translator.addAll] at hall
    split at hall
    · cases hall
    · rename_i between events hadd
      have hbetween : between.Reflects (earlier ++ (addition? locale entries).toList) :=
        h.add (congrArg (·.result) hadd)
      rw [filterMap_cons_toList, ← List.append_assoc]
      exact ih hbetween hall

theorem build_result (catalogs : List (Text × List (MapKey × Value))) (locale fallback : Text) :
    (build catalogs locale fallback).result = ((empty locale fallback).addAll catalogs).result := by
  rw [build]
  split <;> rename_i hall <;> rw [hall]

theorem run_eq_ok {catalogs : List (Text × List (MapKey × Value))} {locale fallback : Text}
    {operations : List Operation} {translator : Translator} :
    run catalogs locale fallback operations = .ok translator ↔
      ∃ built, ((empty locale fallback).addAll catalogs).result = .ok built ∧
        built.applyAll operations = translator := by
  rw [run, map_eq_ok, build_result]

/-- After every run a translator holds what the additions of the run say. -/
theorem run_reflects {catalogs : List (Text × List (MapKey × Value))} {locale fallback : Text}
    {operations : List Operation} {translator : Translator}
    (h : run catalogs locale fallback operations = .ok translator) :
    translator.Reflects (additions catalogs operations) := by
  obtain ⟨built, hall, rfl⟩ := run_eq_ok.mp h
  exact ((reflects_empty locale fallback).addAll hall).applyAll operations

end Translator
end Phrasebook
