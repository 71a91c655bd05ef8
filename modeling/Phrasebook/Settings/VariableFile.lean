import Phrasebook.Dictionary
import Phrasebook.Text.Quoted
import Phrasebook.Text.Trim

/-!
# Phrasebook.Settings.VariableFile

Files of variables. A line gives a name and, behind an equals sign, its value:

    NAME = value          # a comment
    export NAME = value
    'NAME' = "a value that may go over several lines"

A line that cannot be read says nothing, and a name without an equals sign has no value.

* `bindings`: what a file says, in the order of its lines.
* `assignments`: the names of a file and their values, where `${NAME}` and `${NAME:-text}` in a value
  stand for other variables.
-/

namespace Phrasebook
namespace VariableFile

open Unicode

/-! ## Lines -/

/-- A text with one kind of line end. -/
def unifyLineEnds : Text → Text
  | [] => []
  | '\r' :: '\n' :: rest => '\n' :: unifyLineEnds rest
  | '\r' :: rest => '\n' :: unifyLineEnds rest
  | c :: rest => c :: unifyLineEnds rest

/-- The mark of the byte order, which a file may start with. -/
def byteOrderMark : Char := Char.ofNat 0xFEFF

/-- The text of a file. -/
def textOf (file : Text) : Text :=
  match unifyLineEnds file with
  | c :: rest => if c = byteOrderMark then rest else c :: rest
  | [] => []

/-- A blank inside a line. -/
def isGap (c : Char) : Bool :=
  isBlank c && c != '\n'

def skipGap (t : Text) : Text :=
  t.dropWhile isGap

/-- The text behind the end of the line. -/
def nextLine (t : Text) : Text :=
  (t.dropWhile (· != '\n')).drop 1

/-- The text behind the end of the line, if there is nothing but blanks before it. -/
def lineEnd? (t : Text) : Option Text :=
  match skipGap t with
  | [] => some []
  | c :: rest => if c = '\n' then some rest else none

/-- The text behind a comment, at the end of the line. -/
def skipComment (t : Text) : Text :=
  if (skipGap t).head? = some '#' then t.dropWhile (· != '\n') else t

/-- The text behind the word that may stand before a name. -/
def skipExport (t : Text) : Text :=
  match List.isPrefixOf? "export".toList t with
  | some rest => if rest.head?.any isGap then skipGap rest else t
  | none => t

/-! ## Names -/

/-- Characters that a name goes on with. -/
def isNameChar (c : Char) : Bool :=
  c != '=' && c != '#' && !isBlank c

/-- The text up to a mark and the text behind it; the first part is not empty. -/
def untilMark? (mark : Char) (t : Text) : Option (Text × Text) :=
  (Text.cutFirst mark t).bind fun (inside, rest) => if inside = [] then none else some (inside, rest)

/-- The name at the front of a text and what follows it. There is none before a comment. -/
def name? (t : Text) : Option (Option Text × Text) :=
  match t with
  | [] => none
  | c :: rest =>
    if c = '#' then some (none, t)
    else if c = Text.singleQuote then
      (untilMark? Text.singleQuote rest).map fun (name, after) => (some name, after)
    else if isNameChar c then some (some (t.takeWhile isNameChar), t.dropWhile isNameChar)
    else none

/-! ## Values -/

/-- The text up to the first mark that has no backslash before it, and the text behind it; `escaped`
says that there is one before the text. -/
def untilFreeMark? (mark : Char) (escaped : Bool) : Text → Option (Text × Text)
  | [] => none
  | c :: rest =>
    if c = mark && !escaped then some ([], rest)
    else (untilFreeMark? mark (c == '\\') rest).map fun (inside, after) => (c :: inside, after)

/-- The text up to the last mark, and the text behind it. -/
def untilLastMark? (mark : Char) (t : Text) : Option (Text × Text) :=
  (Text.cutFirst mark t.reverse).map fun (after, inside) => (inside.reverse, after.reverse)

/-- The text that a closing mark ends, and what follows. Where every mark has a backslash before it,
the last one closes. -/
def quoted? (mark : Char) (t : Text) : Option (Text × Text) :=
  (untilFreeMark? mark false t).or (untilLastMark? mark t)

/-- The text in which a backslash and a known character stand for another character. -/
def unescape (known : Char → Option Char) : Text → Text
  | [] => []
  | [c] => [c]
  | c :: d :: rest =>
    match if c = '\\' then known d else none with
    | some meant => meant :: unescape known rest
    | none => c :: unescape known (d :: rest)

/-- What may stand behind a backslash between single quotes. -/
def plainEscape (c : Char) : Option Char :=
  if c = '\\' || c = Text.singleQuote then some c else none

/-- What may stand behind a backslash between double quotes. -/
def letterEscape (c : Char) : Option Char :=
  match c with
  | 'a' => some (Char.ofNat 0x07)
  | 'b' => some (Char.ofNat 0x08)
  | 't' => some '\t'
  | 'n' => some '\n'
  | 'v' => some (Char.ofNat 0x0B)
  | 'f' => some (Char.ofNat 0x0C)
  | 'r' => some '\r'
  | c => if c = Text.doubleQuote then some c else plainEscape c

/-- The text before a number sign that stands behind a blank; `behindBlank` says that there is one
before the text. -/
def uncommented (behindBlank : Bool) : Text → Text
  | [] => []
  | c :: rest => if c = '#' && behindBlank then [] else c :: uncommented (isBlank c) rest

/-- The value at the front of a text and what follows it. -/
def value? (t : Text) : Option (Text × Text) :=
  match t with
  | [] => some ([], [])
  | c :: rest =>
    if c = Text.singleQuote then
      (quoted? Text.singleQuote rest).map fun (inside, after) => (unescape plainEscape inside, after)
    else if c = Text.doubleQuote then
      (quoted? Text.doubleQuote rest).map fun (inside, after) =>
        (unescape letterEscape inside, after)
    else
      some (Text.trimRight (uncommented false (t.takeWhile (· != '\n'))),
        t.dropWhile (· != '\n'))

/-! ## Bindings -/

/-- A name and its value, if it has one. -/
abbrev Binding := Text × Option Text

/-- What was found, and the text where it ended or where reading had to stop. -/
structure Found where
  binding : Option Binding
  rest : Text
deriving DecidableEq, Repr

/-- The binding for a name, from the text behind the value, or from the text behind the name if there
is none. -/
def ended (name value : Option Text) (t : Text) : Found :=
  match lineEnd? (skipComment t) with
  | some rest => ⟨name.map fun n => (n, value), rest⟩
  | none => ⟨none, nextLine (skipComment t)⟩

/-- The binding for a name, from the text behind the name. -/
def assigned (name : Option Text) (t : Text) : Found :=
  match skipGap t with
  | '=' :: rest =>
    match value? (skipGap rest) with
    | some (value, after) => ended name (some value) after
    | none => ⟨none, nextLine (skipGap rest)⟩
  | _ => ended name none (skipGap t)

/-- The binding at the front of a text that starts with no blank. -/
def binding (t : Text) : Found :=
  match name? (skipExport t) with
  | some (name, rest) => assigned name rest
  | none => ⟨none, nextLine (skipExport t)⟩

/-- What a text says, line after line. -/
def bindingsOf (t : Text) : List Binding :=
  match Text.trimLeft t with
  | [] => []
  | start =>
    let found := binding start
    found.binding.toList ++ if found.rest.length < t.length then bindingsOf found.rest else []
termination_by t.length

/-- What a file says. -/
def bindings (file : Text) : List Binding :=
  bindingsOf (textOf file)

/-! ## References -/

/-- A variable that a value refers to, and the text that stands for one that is not there. -/
structure Reference where
  name : Text
  default : Text
deriving DecidableEq, Repr

/-- The reference at the front of a text, whose opening is gone, and what follows it. -/
def reference? (t : Text) : Option (Reference × Text) :=
  let name := t.takeWhile fun c => c != '}' && c != ':'
  match t.dropWhile fun c => c != '}' && c != ':' with
  | '}' :: rest => some (⟨name, []⟩, rest)
  | ':' :: '-' :: rest => (Text.cutFirst '}' rest).map fun (default, after) => (⟨name, default⟩, after)
  | _ => none

/-- The text with the values of the variables that it refers to. A variable that is there and has no
value stands for nothing. -/
def resolve (values : Text → Option (Option Text)) (t : Text) : Text :=
  match t with
  | '$' :: '{' :: rest =>
    match reference? rest with
    | some (reference, after) =>
      if after.length < rest.length then
        (match values reference.name with
          | some value => value.getD []
          | none => reference.default) ++ resolve values after
      else []
    | none => '$' :: resolve values ('{' :: rest)
  | c :: rest => c :: resolve values rest
  | [] => []
termination_by t.length

/-- The names of a file and their values, of several the last one. A value may refer to those before
it and, for names that the file does not have, to the environment. -/
def assignments (environment : List (Text × Text)) (file : Text) : Dictionary (Option Text) :=
  (bindings file).foldl (fun done (name, value) =>
    let values := fun n => (done.get? n).or ((environment.lookup n).map some)
    done.insert name (value.map (resolve values))) .empty

end VariableFile
end Phrasebook
