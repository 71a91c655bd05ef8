import Phrasebook.Dictionary
import Phrasebook.Ranking
import Phrasebook.Template.Casing
import Phrasebook.Value

/-!
# Phrasebook.Template.Expansion

Filling in the placeholders of a message. A placeholder is a colon and a name, such as `:name`. Its
name is compared without regard to case, and its casing decides the casing of the value.

* `scan`: one pass over a message that asks a rule at every colon.
* `substitute`: the pass for one name.
* `expand`: one pass for each name, longer names first, so that `:count_total` is not taken for
  `:count`. A later pass also sees what the passes before it have put in. Every value has to have a
  text, whether it is put in or not.
-/

namespace Phrasebook
namespace Template

open Unicode

/-- The character that opens a placeholder. -/
def sentinel : Char := ':'

/-- Copies a text up to the colons at which `rule` has an answer. The answer says how many characters
after the colon belong to the placeholder, and what is written for it. The first `skip` characters
are left out. -/
def scan (rule : Text → Option (Nat × Text)) (skip : Nat) : Text → Text
  | [] => []
  | c :: rest =>
    match skip with
    | skip + 1 => scan rule skip rest
    | 0 =>
      if c = sentinel then
        match rule rest with
        | some (length, value) => value ++ scan rule length rest
        | none => c :: scan rule 0 rest
      else c :: scan rule 0 rest

/-- Whether a text starts with a name, case ignored. -/
def startsWith : Text → Text → Bool
  | [], _ => true
  | _ :: _, [] => false
  | k :: name, c :: rest => standsFor k c && startsWith name rest

/-- The rule for a single name: the value in the casing of the placeholder. -/
def nameRule (name value : Text) (afterColon : Text) : Option (Nat × Text) :=
  if startsWith name afterColon then
    some (name.length,
      (Casing.ofToken (sentinel :: afterColon.take name.length)).apply value)
  else none

/-- The message with every placeholder of the given name filled in. -/
def substitute (message name value : Text) : Text :=
  scan (nameRule name value) 0 message

/-- The values that a message can be filled with. -/
abbrev Replacements := Dictionary Value

/-- The replacements that are used, longer names first; names of one length keep their order. The
empty name is not used. -/
def byLength (replacements : Replacements) : List (Text × Value) :=
  (Ranking.ranked (fun a b => b.1.length ≤ a.1.length) replacements.entries).filter (·.1 ≠ [])

/-- The message with its placeholders filled in. -/
def expand (message : Text) (replacements : Replacements) : Except Numeral.IntegerError Text :=
  (byLength replacements).foldlM
    (fun text entry => entry.2.toText.map (substitute text entry.1)) message

/-! ## Passes -/

section
variable {rule : Text → Option (Nat × Text)} {rest : Text}

@[simp]
theorem scan_nil (skip : Nat) : scan rule skip [] = [] :=
  rfl

@[simp]
theorem scan_cons_of_ne {c : Char} (h : c ≠ sentinel) :
    scan rule 0 (c :: rest) = c :: scan rule 0 rest :=
  if_neg h

@[simp]
theorem scan_sentinel_of_none (h : rule rest = none) :
    scan rule 0 (sentinel :: rest) = sentinel :: scan rule 0 rest := by
  rw [scan, if_pos rfl, h]

theorem scan_sentinel_of_some {length : Nat} {value : Text} (h : rule rest = some (length, value)) :
    scan rule 0 (sentinel :: rest) = value ++ scan rule length rest := by
  rw [scan, if_pos rfl, h]

end

@[simp]
theorem nameRule_of_startsWith {name t : Text} (h : startsWith name t = true) (value : Text) :
    nameRule name value t =
      some (name.length, (Casing.ofToken (sentinel :: t.take name.length)).apply value) :=
  if_pos h

@[simp]
theorem nameRule_of_not_startsWith {name t : Text} (h : startsWith name t = false) (value : Text) :
    nameRule name value t = none := by
  rw [nameRule, h]
  rfl

theorem scan_skip (rule : Text → Option (Nat × Text)) (skip : Nat) (t : Text) :
    scan rule skip t = scan rule 0 (t.drop skip) := by
  induction t generalizing skip with
  | nil => simp
  | cons c rest ih =>
    cases skip with
    | zero => rfl
    | succ skip => rw [scan, ih, List.drop_succ_cons]

end Template
end Phrasebook
