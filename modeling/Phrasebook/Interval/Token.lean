import Phrasebook.Unicode.Blank
import Phrasebook.Unicode.Digit

/-!
# Phrasebook.Interval.Token

The tokens of the interval notation. White space separates tokens and is no part of any.

* `lexeme?`: the token at the front of a text. A number takes as many digits as there are.
* `lex`: all tokens of a text, up to its end or to a character that starts no token. The tokens
  before such a character are kept: who reads only a part of them need not care how they end.
-/

namespace Phrasebook
namespace Interval

open Unicode

inductive TokenKind where
  | openBrace
  | closeBrace
  | openBracket
  | closeBracket
  | comma
  | number
  | infinity
  | star
deriving DecidableEq, Repr

/-- The word for a kind of token in messages. -/
def TokenKind.word : TokenKind → Text
  | .openBrace => "\x7b".toList
  | .closeBrace => "\x7d".toList
  | .openBracket => "[".toList
  | .closeBracket => "]".toList
  | .comma => ",".toList
  | .number => "number".toList
  | .infinity => "inf".toList
  | .star => "*".toList

/-- A token and the position of its first character. -/
structure Token where
  kind : TokenKind
  text : Text
  start : Nat
deriving DecidableEq, Repr

/-- The position after the last character of a token. -/
def Token.stop (token : Token) : Nat :=
  token.start + token.text.length

/-- Where the tokens of a text end: at the end of the text, or before a character that starts no
token. -/
inductive Ending where
  | endOfText (length : Nat)
  | stray (position : Nat) (c : Char)
deriving DecidableEq, Repr

structure Lexed where
  tokens : List Token
  ending : Ending
deriving DecidableEq, Repr

/-! ## Lexemes -/

/-- A point and the digits after it, if there are any. -/
def fractionLexeme : Text → Text
  | '.' :: rest =>
    match rest.takeWhile isAsciiDigit with
    | [] => []
    | digits => '.' :: digits
  | _ => []

def unsignedLexeme? (t : Text) : Option Text :=
  match t.takeWhile isAsciiDigit with
  | [] => none
  | digits => some (digits ++ fractionLexeme (t.dropWhile isAsciiDigit))

def numberLexeme? : Text → Option Text
  | '-' :: rest => (unsignedLexeme? rest).map ('-' :: ·)
  | t => unsignedLexeme? t

def infinityLexeme? : Text → Option Text
  | '-' :: 'I' :: 'n' :: 'f' :: _ => some "-Inf".toList
  | '+' :: 'I' :: 'n' :: 'f' :: _ => some "+Inf".toList
  | 'I' :: 'n' :: 'f' :: _ => some "Inf".toList
  | _ => none

def symbol? : Char → Option TokenKind
  | '{' => some .openBrace
  | '}' => some .closeBrace
  | '[' => some .openBracket
  | ']' => some .closeBracket
  | ',' => some .comma
  | '*' => some .star
  | _ => none

/-- The token at the front of a text. -/
def lexeme? (t : Text) : Option (TokenKind × Text) :=
  match numberLexeme? t with
  | some text => some (.number, text)
  | none =>
    match infinityLexeme? t with
    | some text => some (.infinity, text)
    | none =>
      match t with
      | [] => none
      | c :: _ => (symbol? c).map fun kind => (kind, [c])

theorem fractionLexeme_isPrefix (t : Text) : fractionLexeme t <+: t := by
  unfold fractionLexeme
  split
  · rename_i rest
    split
    · exact List.nil_prefix
    · exact List.cons_prefix_cons.mpr ⟨rfl, List.takeWhile_prefix _⟩
  · exact List.nil_prefix

theorem unsignedLexeme?_isPrefix {t w : Text} (h : unsignedLexeme? t = some w) :
    w <+: t ∧ w ≠ [] := by
  unfold unsignedLexeme? at h
  split at h
  · cases h
  · rename_i hd
    cases h
    refine ⟨?_, fun he => hd (List.append_eq_nil_iff.mp he).1⟩
    obtain ⟨tail, ht⟩ := fractionLexeme_isPrefix (t.dropWhile isAsciiDigit)
    exact ⟨tail, by rw [List.append_assoc, ht, List.takeWhile_append_dropWhile]⟩

theorem numberLexeme?_isPrefix {t w : Text} (h : numberLexeme? t = some w) :
    w <+: t ∧ w ≠ [] := by
  unfold numberLexeme? at h
  split at h
  · obtain ⟨digits, hd, rfl⟩ := Option.map_eq_some_iff.mp h
    exact ⟨List.cons_prefix_cons.mpr ⟨rfl, (unsignedLexeme?_isPrefix hd).1⟩, by simp⟩
  · exact unsignedLexeme?_isPrefix h

theorem infinityLexeme?_isPrefix {t w : Text} (h : infinityLexeme? t = some w) :
    w <+: t ∧ w ≠ [] := by
  unfold infinityLexeme? at h
  split at h
  · rename_i rest; cases h; exact ⟨⟨rest, rfl⟩, by simp⟩
  · rename_i rest; cases h; exact ⟨⟨rest, rfl⟩, by simp⟩
  · rename_i rest; cases h; exact ⟨⟨rest, rfl⟩, by simp⟩
  · cases h

/-- A lexeme is a part of the text and is not empty. -/
theorem lexeme?_isPrefix {t w : Text} {kind : TokenKind} (h : lexeme? t = some (kind, w)) :
    w <+: t ∧ w ≠ [] := by
  unfold lexeme? at h
  split at h
  · rename_i hn; cases h; exact numberLexeme?_isPrefix hn
  · split at h
    · rename_i hi; cases h; exact infinityLexeme?_isPrefix hi
    · split at h
      · cases h
      · obtain ⟨k, _, he⟩ := Option.map_eq_some_iff.mp h
        cases he
        exact ⟨⟨_, rfl⟩, by simp⟩

/-! ## Tokens -/

/-- The tokens of a text that starts at `position`, after its first `skip` characters, which belong
to the token before. -/
def lexAfter (skip position : Nat) : Text → Lexed
  | [] => ⟨[], .endOfText position⟩
  | c :: rest =>
    match skip with
    | skip + 1 => lexAfter skip (position + 1) rest
    | 0 =>
      if isBlank c then lexAfter 0 (position + 1) rest
      else
        match lexeme? (c :: rest) with
        | none => ⟨[], .stray position c⟩
        | some (kind, text) =>
          let later := lexAfter (text.length - 1) (position + 1) rest
          ⟨⟨kind, text, position⟩ :: later.tokens, later.ending⟩

/-- Skipping characters is the same as reading the text after them. -/
theorem lexAfter_eq_drop {skip : Nat} (position : Nat) {t : Text} (h : skip ≤ t.length) :
    lexAfter skip position t = lexAfter 0 (position + skip) (t.drop skip) := by
  induction t generalizing skip position with
  | nil =>
    have : skip = 0 := by simpa using h
    subst this
    rfl
  | cons c rest ih =>
    cases skip with
    | zero => rfl
    | succ skip =>
      rw [lexAfter, ih (position + 1) (by simpa using h), List.drop_succ_cons, Nat.add_assoc,
        Nat.add_comm 1 skip]

/-- The tokens of a text. -/
def lex (t : Text) : Lexed :=
  lexAfter 0 0 t

/-- The tokens of a text from a position on. -/
def lexFrom (start : Nat) (t : Text) : Lexed :=
  lexAfter 0 start (t.drop start)

end Interval
end Phrasebook
