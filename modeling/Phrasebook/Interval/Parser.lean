import Phrasebook.Interval.Basic
import Phrasebook.Interval.Malformed
import Phrasebook.Log.Logged
import Phrasebook.Text.Trim

/-!
# Phrasebook.Interval.Parser

Reading intervals.

* `{1,2,3}` is a finite set. Fractions are cut off: `2.9` stands for `2`.
* `[low,high]` is a range. A bracket that opens away from the range leaves its bound out, so
  `]1,2[` holds neither bound. `-Inf`, `+Inf`, `Inf` and `*` are infinite bounds; on the left every
  one of them is negative infinity.

`parse` reads a text that is an interval up to blanks; `parsePrefix?` reads an interval at the front
of a text and does not look at what follows it.
-/

namespace Phrasebook
namespace Interval

/-- The bound that a literal denotes. -/
def readBound (t : Text) : Except Numeral.IntegerError Bound :=
  if t = "-Inf".toList then .ok .negInf
  else if t = "+Inf".toList || t = "Inf".toList || t = "*".toList then .ok .posInf
  else (Numeral.integerPart t).map .int

/-- An infinite bound on the left is negative infinity. -/
def leftBound : Bound → Bound
  | .posInf => .negInf
  | b => b

/-- An interval read from tokens, the position where it ends, and the tokens after it. -/
structure Parsed where
  interval : Interval
  stop : Nat
  rest : List Token
deriving DecidableEq, Repr

/-- The first token, which has to be of one of the given kinds, and the tokens after it. -/
def take (kinds : List TokenKind) (ending : Ending) :
    List Token → Except Fault (Token × List Token)
  | [] => .error (.malformed ending.defect)
  | token :: rest =>
    if token.kind ∈ kinds then .ok (token, rest)
    else .error (.malformed ⟨token.start, .unexpectedToken kinds token.text⟩)

/-- The first token as a bound, and the tokens after it. -/
def takeBound (ending : Ending) (tokens : List Token) : Except Fault (Bound × List Token) := do
  let (token, rest) ← take [.number, .infinity, .star] ending tokens
  let b ← (readBound token.text).mapError .integer
  .ok (b, rest)

/-- A token as a number of a set. -/
def setNumber (token : Token) : Except Fault Int :=
  if token.kind = .number then (Numeral.integerPart token.text).mapError .integer
  else .error (.malformed ⟨token.start, .unexpectedToken [.number] token.text⟩)

/-- The numbers of a set after its opening brace, the position after its closing brace, and the
tokens after that. -/
def setNumbers (ending : Ending) : List Token → Except Fault (List Int × Nat × List Token)
  | [] => .error (.malformed ending.defect)
  | [token] => do
    let _ ← setNumber token
    .error (.malformed ending.defect)
  | token :: mark :: rest => do
    let value ← setNumber token
    match mark.kind with
    | .comma =>
      let (values, stop, after) ← setNumbers ending rest
      .ok (value :: values, stop, after)
    | .closeBrace => .ok ([value], mark.stop, rest)
    | _ => .error (.malformed ⟨mark.start, .unexpectedToken [.comma, .closeBrace] mark.text⟩)

/-- A range, given its opening bracket and the tokens after that. -/
def rangeAfter (left : Token) (ending : Ending) (tokens : List Token) : Except Fault Parsed := do
  let (low, tokens) ← takeBound ending tokens
  let (_, tokens) ← take [.comma] ending tokens
  let (high, tokens) ← takeBound ending tokens
  let (right, rest) ← take [.openBracket, .closeBracket] ending tokens
  .ok
    { interval := .range (leftBound low) high (left.kind = .openBracket) (right.kind = .closeBracket)
      stop := right.stop
      rest := rest }

/-- The interval that the tokens start with. -/
def ofTokens (lexed : Lexed) : Except Fault Parsed :=
  match lexed.tokens with
  | [] =>
    match lexed.ending with
    | .endOfText _ => .error (.malformed ⟨0, .empty⟩)
    | .stray position c => .error (.malformed ⟨position, .strayCharacter c⟩)
  | token :: rest =>
    match token.kind with
    | .openBrace => do
      let (values, stop, after) ← setNumbers lexed.ending rest
      .ok ⟨.set values, stop, after⟩
    | .openBracket | .closeBracket => rangeAfter token lexed.ending rest
    | _ => .error (.malformed ⟨token.start, .badStart token.text⟩)

/-- The interval that makes up all of the tokens. -/
def ofAllTokens (lexed : Lexed) : Except Fault Interval := do
  let parsed ← ofTokens lexed
  match parsed.rest, lexed.ending with
  | token :: _, _ => .error (.malformed ⟨token.start, .trailing token.text⟩)
  | [], .stray position c => .error (.malformed ⟨position, .strayCharacter c⟩)
  | [], .endOfText _ => .ok parsed.interval

/-- Why a text cannot be read as an interval: its notation has a defect, or a number in it cannot be
read. -/
inductive ParseError where
  | malformed (interval : Text) (defect : Defect)
  | integer (error : Numeral.IntegerError)
deriving DecidableEq, Repr

/-- What a log is told about a failed reading: defects of the notation, and nothing else. -/
def ParseError.events : ParseError → List Log.Event
  | .malformed interval defect =>
    [.intervalParseFailed interval defect.position defect.reason.text]
  | .integer _ => []

def Fault.parseError (interval : Text) : Fault → ParseError
  | .malformed defect => .malformed interval defect
  | .integer error => .integer error

/-- The interval that a text denotes; blanks around it do not matter. -/
def parse (t : Text) : Except ParseError Interval :=
  (ofAllTokens (lex (Text.trim t))).mapError (Fault.parseError (Text.trim t))

/-- The interval that a text denotes, with what a log is told about the reading. -/
def parseLogged (t : Text) : Log.Logged (Except ParseError Interval) :=
  match parse t with
  | .ok interval => ⟨.ok interval, []⟩
  | .error e => ⟨.error e, e.events⟩

/-- Whether an interval may start with the character. -/
def opensInterval (c : Char) : Bool :=
  c = '{' || c = '[' || c = ']'

/-- The interval at the front of a text, after blanks, and the text that follows it. A text that
does not start with a well-formed interval has none; a number with too many digits is an error. -/
def parsePrefix? (t : Text) : Except Numeral.IntegerError (Option (Interval × Text)) :=
  match Text.trimLeft t with
  | [] => .ok none
  | c :: rest =>
    if opensInterval c then
      match ofTokens (lex (c :: rest)) with
      | .ok parsed => .ok (some (parsed.interval, (c :: rest).drop parsed.stop))
      | .error (.malformed _) => .ok none
      | .error (.integer error) => .error error
    else .ok none

/-- Whether the interval that a text denotes contains a count. -/
def test (t : Text) (count : Int) : Except ParseError Bool :=
  (parse t).map (contains · count)

end Interval
end Phrasebook
