import Phrasebook.Catalog.Basic
import Phrasebook.Locale.Tag
import Phrasebook.Log.Logged
import Phrasebook.Template.Expansion
import Phrasebook.Variant.Selection

/-!
# Phrasebook.Translator

A translator holds a catalog for each locale, the locale that is used when a call names none, and
the locale whose catalog is searched when a key is missing.

* `add` puts messages into the catalog of a locale; messages that cannot be flattened change nothing.
  `addInPlace` is the same in steps.
* `lookup` finds the message of a key, in the locale's own catalog or in that of the fallback.
* `translate` and `translateCount` show the message of a key with its placeholders filled in, the
  second with the variant for a count. A key that has no message anywhere is shown itself.
-/

namespace Phrasebook

structure Translator where
  catalogs : Dictionary Catalog
  locale : Text
  fallback : Text

namespace Translator

/-- The locale that is used when nothing else is said. -/
def builtInLocale : Text := "en".toList

/-- A locale, or another one where it is left out. -/
def orElse (locale other : Text) : Text :=
  if locale = [] then other else locale

/-- A translator without catalogs. -/
def empty (locale fallback : Text) : Translator :=
  ⟨.empty, orElse locale builtInLocale, orElse fallback builtInLocale⟩

/-! ## Catalogs -/

/-- The translator with messages put into the catalog of a locale. -/
def addMessages (translator : Translator) (locale : Text) (messages : Dictionary Text) :
    Translator :=
  let catalog := (translator.catalogs.get? locale).getD (.empty locale)
  { translator with
    catalogs := translator.catalogs.insert locale (catalog.merge ⟨locale, messages⟩) }

/-- The translator with nested messages put into the catalog of a locale. -/
def add (translator : Translator) (locale : Text) (entries : List (MapKey × Value)) :
    Log.Logged (Except Catalog.BadLeaf Translator) :=
  match Catalog.flatten [] entries with
  | .error leaf => ⟨.error leaf, []⟩
  | .ok messages =>
    ⟨.ok (translator.addMessages locale messages), [.catalogAdded locale messages.size]⟩

/-- The translator with an empty catalog for a locale that has none. -/
def register (translator : Translator) (code : Text) : Translator :=
  match translator.catalogs.get? code with
  | some _ => translator
  | none => { translator with catalogs := translator.catalogs.insert code (.empty code) }

/-- The translator with messages merged into a catalog that is there. -/
def mergeInto (translator : Translator) (code : Text) (messages : Dictionary Text) : Translator :=
  match translator.catalogs.get? code with
  | some catalog =>
    { translator with catalogs := translator.catalogs.insert code (catalog.merge ⟨code, messages⟩) }
  | none => translator

/-- An addition as steps that change the translator itself, one after another. A step that fails does
not take back what the steps before it have done. -/
def addInPlace (code : Text) (entries : List (MapKey × Value)) :
    EStateM Catalog.BadLeaf Translator Unit := do
  let messages ← MonadExcept.ofExcept (Catalog.flatten [] entries)
  modify fun translator => translator.register code
  modify fun translator => translator.mergeInto code messages

/-- The translator with several catalogs added, one after another, up to the first that fails. -/
def addAll (translator : Translator) :
    List (Text × List (MapKey × Value)) → Log.Logged (Except Catalog.BadLeaf Translator)
  | [] => ⟨.ok translator, []⟩
  | (locale, entries) :: rest =>
    match translator.add locale entries with
    | ⟨.error leaf, events⟩ => ⟨.error leaf, events⟩
    | ⟨.ok next, events⟩ =>
      let later := next.addAll rest
      ⟨later.result, events ++ later.events⟩

/-- A new translator with the given catalogs. -/
def build (catalogs : List (Text × List (MapKey × Value))) (locale fallback : Text) :
    Log.Logged (Except Catalog.BadLeaf Translator) :=
  match (empty locale fallback).addAll catalogs with
  | ⟨.error leaf, events⟩ => ⟨.error leaf, events⟩
  | ⟨.ok translator, events⟩ =>
    ⟨.ok translator,
      events ++ [.initializedTranslator translator.locale translator.fallback
        translator.catalogs.size]⟩

def setLocale (translator : Translator) (locale : Text) : Translator :=
  { translator with locale := locale }

def setFallback (translator : Translator) (locale : Text) : Translator :=
  { translator with fallback := locale }

/-- The locales that have a catalog, in the order in which they got it. -/
def locales (translator : Translator) : List Text :=
  translator.catalogs.keys

/-- A view of a translator: its locales, and the codes of the catalogs that it has. Messages are not
copied into a view; it shows those that the catalogs hold when it is shown. -/
structure View where
  locale : Text
  fallback : Text
  catalogs : List Text
deriving DecidableEq, Repr

def view (translator : Translator) : View :=
  ⟨translator.locale, translator.fallback, translator.locales⟩

/-- The catalogs of a view with the messages that they hold now. -/
def View.messages (view : View) (now : Translator) : List (Text × Dictionary Text) :=
  view.catalogs.filterMap fun code =>
    (now.catalogs.get? code).map fun catalog => (code, catalog.messages)

/-! ## Lookup -/

/-- The locale of a call: the one that it names, or the current one. -/
def effective (translator : Translator) (locale : Text) : Text :=
  orElse locale translator.locale

/-- The message of a key in the catalog of exactly the given locale. -/
def messageIn? (translator : Translator) (locale key : Text) : Option Text :=
  (translator.catalogs.get? locale).bind (·.get? key)

/-- Whether the locale of a call has a message for a key. -/
def has (translator : Translator) (key locale : Text) : Bool :=
  (translator.messageIn? (translator.effective locale) key).isSome

/-- Where the message of a key was found. -/
inductive Lookup where
  | found (message : Text)
  | inFallback (message : Text)
  | missing
deriving DecidableEq, Repr

def Lookup.message? : Lookup → Option Text
  | found message => some message
  | inFallback message => some message
  | missing => none

/-- Looks a key up in the catalog of the locale of a call, then in that of the fallback. -/
def lookup (translator : Translator) (key locale : Text) : Lookup :=
  match translator.messageIn? (translator.effective locale) key with
  | some message => .found message
  | none =>
    if translator.effective locale = translator.fallback then .missing
    else
      match translator.messageIn? translator.fallback key with
      | some message => .inFallback message
      | none => .missing

/-- The message of a key. -/
def message? (translator : Translator) (key locale : Text) : Log.Logged (Option Text) :=
  let lookup := translator.lookup key locale
  ⟨lookup.message?,
    match lookup with
    | .inFallback _ =>
      [.usedFallback key (translator.effective locale) translator.fallback]
    | _ => []⟩

/-- The message of a key, or the key itself. -/
def messageOrKey (translator : Translator) (key locale : Text) : Log.Logged Text :=
  let found := translator.message? key locale
  match found.result with
  | some message => ⟨message, found.events⟩
  | none =>
    ⟨key,
      found.events ++
        [.messageNotFound key (translator.effective locale) translator.fallback]⟩

/-! ## Showing messages -/

/-- The message of a key with its placeholders filled in. -/
def translate (translator : Translator) (key : Text) (replacements : Template.Replacements)
    (locale : Text) : Log.Logged (Except Numeral.IntegerError Text) :=
  let message := translator.messageOrKey key locale
  ⟨Template.expand message.result replacements, message.events⟩

/-- The name under which a count is filled in. -/
def countName : Text := "count".toList

/-- The values of a message for a count: the count first, unless it is replaced itself. -/
def countReplacements (count : Int) (replacements : Template.Replacements) :
    Template.Replacements :=
  (Dictionary.ofList [(countName, .integer count)]).merge replacements

/-- The variant for a count of the message of a key, with its placeholders filled in. The plural
form is that of the language of the call's locale. -/
def translateCount (translator : Translator) (key : Text) (count : Int)
    (replacements : Template.Replacements) (locale : Text) :
    Log.Logged (Except Numeral.IntegerError Text) :=
  let message := translator.messageOrKey key locale
  let language := Locale.normalize (translator.effective locale)
  match Variant.choose message.result count language with
  | .error e => ⟨.error e, message.events⟩
  | .ok selection =>
    ⟨Template.expand selection.text (countReplacements count replacements),
      message.events ++ selection.events count language⟩

end Translator
end Phrasebook
