import Phrasebook.Numeral.Integer
import Phrasebook.Numeral.Scientific
import Phrasebook.Value

/-!
# Phrasebook.Json

Values written in JSON. A text is cut into tokens, and a stack of the lists and objects that are open
makes a value of them. `NaN`, `Infinity` and `-Infinity` count as numbers, a whole number is held to
the limit on digits, and of several members of one name the last one counts.

* `tokens?`: the tokens of a text, if it has no other characters.
* `Reading.finish?`: the value that tokens make.
* `read?`: the value that a text is written for.
-/

namespace Phrasebook
namespace Json

inductive Container where
  | object
  | list
deriving DecidableEq, Repr

inductive Token where
  | opening (container : Container)
  | closing (container : Container)
  | comma
  | colon
  | string (t : Text)
  /-- A number or a word. -/
  | atom (v : Value)

/-! ## Strings -/

def isSpace (c : Char) : Bool :=
  c = ' ' || c = '\t' || c = '\n' || c = '\r'

/-- The value of a hexadecimal digit. -/
def hexValue? (c : Char) : Option Nat :=
  if c.isDigit then some (c.toNat - 0x30)
  else if 'a' ≤ c && c ≤ 'f' then some (c.toNat - 0x57)
  else if 'A' ≤ c && c ≤ 'F' then some (c.toNat - 0x37)
  else none

/-- The number of four hexadecimal digits. -/
def code? (a b c d : Char) : Option Nat :=
  [a, b, c, d].foldl (fun n digit => n.bind fun n => (hexValue? digit).map (16 * n + ·)) (some 0)

/-- What a letter stands for behind a backslash. -/
def escaped? (c : Char) : Option Nat :=
  if c = Text.doubleQuote || c = '\\' || c = '/' then some c.toNat
  else
    match c with
    | 'b' => some 0x08
    | 'f' => some 0x0C
    | 'n' => some 0x0A
    | 'r' => some 0x0D
    | 't' => some 0x09
    | _ => none

/-- The codes of a string whose opening mark is gone, and what follows it. -/
def codes? : Text → Option (List Nat × Text)
  | [] => none
  | '\\' :: 'u' :: a :: b :: c :: d :: rest =>
    (code? a b c d).bind fun n => (codes? rest).map fun (codes, after) => (n :: codes, after)
  | '\\' :: c :: rest =>
    (escaped? c).bind fun n => (codes? rest).map fun (codes, after) => (n :: codes, after)
  | c :: rest =>
    if c = Text.doubleQuote then some ([], rest)
    else if c.toNat < 0x20 then none
    else (codes? rest).map fun (codes, after) => (c.toNat :: codes, after)

def isHighHalf (n : Nat) : Bool :=
  0xD800 ≤ n && n < 0xDC00

def isLowHalf (n : Nat) : Bool :=
  0xDC00 ≤ n && n < 0xE000

/-- The character that stands for half a code point. -/
def replacement : Char := Char.ofNat 0xFFFD

/-- The text of some codes, where two halves that stand together make one code point. -/
def textOf : List Nat → Text
  | [] => []
  | [n] => [if isHighHalf n || isLowHalf n then replacement else Char.ofNat n]
  | n :: m :: rest =>
    if isHighHalf n && isLowHalf m then
      Char.ofNat (0x10000 + (n - 0xD800) * 0x400 + (m - 0xDC00)) :: textOf rest
    else if isHighHalf n || isLowHalf n then replacement :: textOf (m :: rest)
    else Char.ofNat n :: textOf (m :: rest)

/-! ## Numbers and words -/

/-- What follows the digits before the point, which start with a zero only if it is the only one. -/
def afterWhole? : Text → Option Text
  | '0' :: rest => some rest
  | c :: rest => if c.isDigit then some (rest.dropWhile Char.isDigit) else none
  | [] => none

/-- What follows a fraction, if there is one. -/
def afterFraction? : Text → Option Text
  | '.' :: c :: rest => if c.isDigit then some (rest.dropWhile Char.isDigit) else none
  | _ => none

/-- What follows an exponent, if there is one. -/
def afterExponent? : Text → Option Text
  | e :: rest =>
    if e = 'e' || e = 'E' then
      let digits := match rest with
        | '+' :: digits => digits
        | '-' :: digits => digits
        | digits => digits
      if digits.head?.any Char.isDigit then some (digits.dropWhile Char.isDigit) else none
    else none
  | [] => none

/-- What follows a number, and whether the number is whole. -/
def afterNumber? (t : Text) : Option (Text × Bool) :=
  let unsigned := match t with
    | '-' :: rest => rest
    | _ => t
  (afterWhole? unsigned).map fun rest =>
    match afterFraction? rest, afterExponent? ((afterFraction? rest).getD rest) with
    | none, none => (rest, true)
    | fraction, exponent => (exponent.getD (fraction.getD rest), false)

/-- The number at the front of a text and what follows it. -/
def number? (t : Text) : Option (Value × Text) :=
  (afterNumber? t).bind fun (rest, isWhole) =>
    let numeral := t.take (t.length - rest.length)
    if isWhole then
      match Numeral.readInteger numeral with
      | .ok n => some (.integer n, rest)
      | .error _ => none
    else (Numeral.readBinary64? numeral).map fun x => (.real x, rest)

/-- The words and what they stand for. -/
def words : List (Text × Value) :=
  [("null".toList, .null), ("true".toList, .boolean true), ("false".toList, .boolean false),
   ("NaN".toList, .real .nan), ("Infinity".toList, .real (.infinity false)),
   ("-Infinity".toList, .real (.infinity true))]

/-- The word or number at the front of a text and what follows it. -/
def atom? (t : Text) : Option (Value × Text) :=
  (words.findSome? fun (word, v) => (List.isPrefixOf? word t).map fun rest => (v, rest)).or
    (number? t)

/-! ## Tokens -/

/-- The first token of a text that starts with no space, and what follows it. -/
def token? : Text → Option (Token × Text)
  | [] => none
  | c :: rest =>
    match c with
    | '{' => some (.opening .object, rest)
    | '}' => some (.closing .object, rest)
    | '[' => some (.opening .list, rest)
    | ']' => some (.closing .list, rest)
    | ',' => some (.comma, rest)
    | ':' => some (.colon, rest)
    | c =>
      if c = Text.doubleQuote then
        (codes? rest).map fun (codes, after) => (.string (textOf codes), after)
      else (atom? (c :: rest)).map fun (v, after) => (.atom v, after)

/-- The tokens of a text. -/
def tokens? (t : Text) : Option (List Token) :=
  match t.dropWhile isSpace with
  | [] => some []
  | start =>
    match token? start with
    | none => none
    | some (token, rest) =>
      if rest.length < t.length then (tokens? rest).map (token :: ·) else none
termination_by t.length

/-! ## Values -/

/-- A list or an object that is open, with what it has so far, the last in front. -/
inductive Frame where
  | items (before : List Value)
  /-- The value of the member `name` is being read. -/
  | members (before : List (MapKey × Value)) (name : Text)

/-- What may come next. -/
inductive Awaited where
  | value
  | valueOrEnd
  | nameOrEnd
  | name (before : List (MapKey × Value))
  | colon (before : List (MapKey × Value)) (name : Text)
  /-- What follows a value that is read. -/
  | more (v : Value)

/-- What is open, the innermost first, and what may come next. -/
structure Reading where
  inside : List Frame
  awaited : Awaited

namespace Reading

/-- The reading after the start of a value. -/
def onValue? (inside : List Frame) : Token → Option Reading
  | .string t => some ⟨inside, .more (.text t)⟩
  | .atom v => some ⟨inside, .more v⟩
  | .opening .list => some ⟨.items [] :: inside, .valueOrEnd⟩
  | .opening .object => some ⟨inside, .nameOrEnd⟩
  | _ => none

/-- The reading after a value and one more token. -/
def onMore? (v : Value) : List Frame → Token → Option Reading
  | .items before :: outer, .comma => some ⟨.items (v :: before) :: outer, .value⟩
  | .items before :: outer, .closing .list => some ⟨outer, .more (.list (v :: before).reverse)⟩
  | .members before name :: outer, .comma => some ⟨outer, .name ((.text name, v) :: before)⟩
  | .members before name :: outer, .closing .object =>
    some ⟨outer, .more (Value.ofEntries ((.text name, v) :: before).reverse)⟩
  | _, _ => none

/-- The reading after one more token, if it may stand there. -/
def next? (reading : Reading) (token : Token) : Option Reading :=
  match reading.awaited, token, reading.inside with
  | .value, token, inside => onValue? inside token
  | .valueOrEnd, .closing .list, _ :: outer => some ⟨outer, .more (.list [])⟩
  | .valueOrEnd, token, inside => onValue? inside token
  | .nameOrEnd, .closing .object, inside => some ⟨inside, .more (.mapping [])⟩
  | .nameOrEnd, .string name, inside => some ⟨inside, .colon [] name⟩
  | .name before, .string name, inside => some ⟨inside, .colon before name⟩
  | .colon before name, .colon, inside => some ⟨.members before name :: inside, .value⟩
  | .more v, token, inside => onMore? v inside token
  | _, _, _ => none

/-- The value of which a reading is the start and tokens are the end. -/
def finish? (reading : Reading) : List Token → Option Value
  | [] =>
    match reading with
    | ⟨[], .more v⟩ => some v
    | _ => none
  | token :: rest => (reading.next? token).bind fun next => next.finish? rest

end Reading

/-- The value that a text is written for. -/
def read? (t : Text) : Option Value :=
  (tokens? t).bind (Reading.finish? ⟨[], .value⟩)

end Json
end Phrasebook
