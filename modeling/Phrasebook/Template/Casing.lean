import Phrasebook.Text.Case
import Phrasebook.Text.Quoted
import Phrasebook.Unicode.Letter

/-!
# Phrasebook.Template.Casing

The casing that a placeholder asks for. A placeholder without lower-case letters asks for a value in
upper case, one that starts with an upper-case letter for a value that does, and any other takes the
value as it is.
-/

namespace Phrasebook

inductive Casing where
  | upper
  | title
  | verbatim
deriving DecidableEq, Repr

namespace Casing

open Unicode

def name : Casing → Text
  | upper => "upper".toList
  | title => "title".toList
  | verbatim => "verbatim".toList

/-- The casing with the given name. -/
def ofName? (word : Text) : Option Casing :=
  [upper, title, verbatim].find? fun casing => casing.name == word

/-- The message about a name that no casing has. -/
def unknownNameMessage (word : Text) : Text :=
  Text.quoted word ++ " is not a valid CaseStyle".toList

/-- A value in the given casing. -/
def apply : Casing → Text → Text
  | upper, value => Text.upper value
  | title, value => Text.capitalize value
  | verbatim, value => value

/-- The text with its first letter in upper case; what stands before the letter stays as it is. -/
def capitalizeLetter : Text → Text
  | [] => []
  | c :: rest => if isLetter c then upperImage c ++ rest else c :: capitalizeLetter rest

/-- The casing that a placeholder is written in. -/
def ofToken (token : Text) : Casing :=
  if token = Text.upper token then upper
  else if token = capitalizeLetter token then title
  else verbatim

/-- A value that is its own upper case is the same in every casing. -/
theorem apply_eq_self {value : Text} (h : ∀ c ∈ value, upperImage c = [c]) (casing : Casing) :
    casing.apply value = value := by
  cases casing with
  | upper =>
    rw [apply, Text.upper]
    induction value with
    | nil => rfl
    | cons c rest ih =>
      rw [List.flatMap_cons, h c List.mem_cons_self, ih fun d hd => h d (List.mem_cons_of_mem c hd)]
      rfl
  | title =>
    cases value with
    | nil => rfl
    | cons c rest => rw [apply, Text.capitalize, h c List.mem_cons_self, List.singleton_append]
  | verbatim => rfl

theorem ofName?_name (casing : Casing) : ofName? casing.name = some casing := by
  cases casing <;> decide

end Casing
end Phrasebook
