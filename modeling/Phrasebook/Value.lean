import Phrasebook.Numeral.Integer
import Phrasebook.Numeral.Shortest
import Phrasebook.Text.Quoted

/-!
# Phrasebook.Value

Values as callers hand them over: the values of placeholders, and messages with everything that may
wrongly stand among them. A value has a text unless there is an integer in it that is not written, as
it has too many digits: `Value.toText`. Keys are texts, or have one.

In a mapping, keys that are equal are one key, and the truth values equal the numbers 0 and 1;
`Value.ofEntries` builds a mapping from entries with that in mind, and `Value.overlay` puts a mapping
together with a weaker one.
-/

namespace Phrasebook

/-- A key of a mapping: a text, or something that has one. -/
inductive MapKey where
  | text (t : Text)
  | integer (n : Int) (writable : Numeral.Writable n)
  | boolean (b : Bool)
  | null
deriving DecidableEq, Repr

/-- A value of any kind. -/
inductive Value where
  | text (t : Text)
  | integer (n : Int)
  | boolean (b : Bool)
  | null
  | real (x : Binary64)
  | list (items : List Value)
  | mapping (entries : List (MapKey × Value))

def nullText : Text := "None".toList

def booleanText (b : Bool) : Text :=
  if b then "True".toList else "False".toList

namespace MapKey

/-- The number that a key equals. -/
def number? : MapKey → Option Int
  | .integer n _ => some n
  | .boolean b => some (if b then 1 else 0)
  | _ => none

/-- Whether two keys are the same key of a mapping. -/
def same (a b : MapKey) : Bool :=
  match a.number?, b.number? with
  | some m, some n => m == n
  | none, none => a == b
  | _, _ => false

/-- The text of a key. -/
def toText : MapKey → Text
  | .text t => t
  | .integer n _ => Numeral.decimal n
  | .boolean b => booleanText b
  | .null => nullText

/-- A key as it is shown inside a mapping. -/
def written : MapKey → Text
  | .text t => Text.quoted t
  | key => key.toText

end MapKey

namespace Value

/-- Entries with `key` mapped to `value`; a key that is there keeps its place and its spelling. -/
def putEntry (key : MapKey) (value : Value) :
    List (MapKey × Value) → List (MapKey × Value)
  | [] => [(key, value)]
  | (k, v) :: rest => if k.same key then (k, value) :: rest else (k, v) :: putEntry key value rest

/-- The mapping with the given entries; of several values for a key the last one counts. -/
def ofEntries (entries : List (MapKey × Value)) : Value :=
  .mapping (entries.foldl (fun done entry => putEntry entry.1 entry.2 done) [])

/-- The value of a key, if it is there. -/
def entry? (key : MapKey) : List (MapKey × Value) → Option Value
  | [] => none
  | (k, v) :: rest => if k.same key then some v else entry? key rest

mutual

/-- A value that is laid over a weaker one: mappings are put together, and any other value takes the
place of the weaker. -/
def overlay (weak : Value) : Value → Value
  | .mapping strong =>
    match weak with
    | .mapping entries => .mapping (overlayEntries entries strong)
    | _ => .mapping strong
  | v => v

/-- Entries laid over weaker ones. -/
def overlayEntries (weak : List (MapKey × Value)) : List (MapKey × Value) → List (MapKey × Value)
  | [] => weak
  | (key, v) :: rest =>
    overlayEntries
      (putEntry key (match entry? key weak with
        | some w => overlay w v
        | none => v) weak) rest

end

mutual

/-- A value as it is shown inside another value. -/
def written : Value → Except Numeral.IntegerError Text
  | .text t => .ok (Text.quoted t)
  | .integer n => Numeral.writeInteger n
  | .boolean b => .ok (booleanText b)
  | .null => .ok nullText
  | .real x => .ok (Numeral.binary64Text x)
  | .list items => (writtenItems items).map fun texts => '[' :: Text.joinWith ", ".toList texts ++ [']']
  | .mapping entries =>
    (writtenEntries entries).map fun texts => '{' :: Text.joinWith ", ".toList texts ++ ['}']

def writtenItems : List Value → Except Numeral.IntegerError (List Text)
  | [] => .ok []
  | v :: rest =>
    match written v with
    | .error e => .error e
    | .ok t => (writtenItems rest).map (t :: ·)

def writtenEntries : List (MapKey × Value) → Except Numeral.IntegerError (List Text)
  | [] => .ok []
  | (key, v) :: rest =>
    match written v with
    | .error e => .error e
    | .ok t => (writtenEntries rest).map ((key.written ++ ": ".toList ++ t) :: ·)

end

/-- The text of a value: a text is its own, every other value is shown. -/
def toText : Value → Except Numeral.IntegerError Text
  | .text t => .ok t
  | v => written v

@[simp]
theorem toText_integer (n : Int) : toText (.integer n) = Numeral.writeInteger n := by
  simp [toText, written]

/-- The word for the kind of a value in messages. -/
def kindWord : Value → Text
  | .text _ => "str".toList
  | .integer _ => "int".toList
  | .boolean _ => "bool".toList
  | .null => "NoneType".toList
  | .real _ => "float".toList
  | .list _ => "list".toList
  | .mapping _ => "dict".toList

end Value
end Phrasebook
