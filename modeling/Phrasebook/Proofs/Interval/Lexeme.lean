import Phrasebook.Interval.Parser
import Phrasebook.Proofs.Interval.Notation

/-!
# Phrasebook.Proofs.Interval.Lexeme

The lexemes of the interval notation, one at a time.

* `lexeme?_sound`, `lexeme?_append`: what `lexeme?` finds is a word of the grammar, and it finds the
  whole of any word that what follows does not prolong.
* `integerPart_digits`, `integerPart_minus_digits`: reading takes the digits before the point, or
  refuses them if they are too many.
* `Number.integerPart`: reading a number gives its integer part, if it has not too many digits. A word
  in which this goes well is `Legible`; in any other there is an `Overlong` run of digits.
* `number_decimal`: an integer in decimal digits is a number.
-/

namespace Phrasebook
namespace Interval

open Unicode Text

/-! ## Digits -/

theorem isAsciiDigit_iff {c : Char} : isAsciiDigit c = true ↔ 48 ≤ c.toNat ∧ c.toNat ≤ 57 := by
  simp only [isAsciiDigit, Bool.and_eq_true, decide_eq_true_eq, Char.le_def, UInt32.le_iff_toNat_le]
  exact Iff.rfl

theorem isBlank_of_isAsciiDigit {c : Char} (h : isAsciiDigit c = true) : isBlank c = false := by
  have hc := isAsciiDigit_iff.mp h
  simp only [isBlank, inRanges, blankRanges, List.any_cons, List.any_nil, Bool.or_false,
    Bool.or_eq_false_iff, Bool.and_eq_false_iff, decide_eq_false_iff_not]
  omega

theorem ne_of_isAsciiDigit {c d : Char} (h : isAsciiDigit c = true) (hd : isAsciiDigit d = false) :
    c ≠ d := by
  rintro rfl
  rw [h] at hd
  cases hd

theorem Digits.startsSolid {d : Text} (h : Digits d) : StartsSolid d := by
  obtain ⟨hne, hd⟩ := h
  cases d with
  | nil => exact absurd rfl hne
  | cons c rest => exact ⟨c, rest, rfl, isBlank_of_isAsciiDigit (hd c (by simp))⟩

theorem Digits.reverse {d : Text} (h : Digits d) : Digits d.reverse :=
  ⟨by simpa using h.1, fun c hc => h.2 c (List.mem_reverse.mp hc)⟩

/-- What follows does not prolong a number. -/
def Stops (rest : Text) : Prop :=
  ∀ c, rest.head? = some c → isAsciiDigit c = false ∧ c ≠ '.'

theorem stops_nil : Stops [] := by
  intro c hc
  cases hc

theorem takeWhile_digits {d rest : Text} (hd : ∀ c ∈ d, isAsciiDigit c = true)
    (hrest : ∀ c, rest.head? = some c → isAsciiDigit c = false) :
    (d ++ rest).takeWhile isAsciiDigit = d ∧ (d ++ rest).dropWhile isAsciiDigit = rest := by
  rw [List.takeWhile_append_of_pos hd, List.dropWhile_append_of_pos hd]
  cases rest with
  | nil => simp
  | cons c rest => simp [hrest c rfl]

/-! ## Numbers -/

theorem head?_fraction {f rest : Text} (hf : Fraction f) (hrest : Stops rest) :
    ∀ c, (f ++ rest).head? = some c → isAsciiDigit c = false := by
  intro c hc
  cases hf with
  | none => exact (hrest c hc).1
  | digits _ =>
    simp only [List.cons_append, List.head?_cons, Option.some.injEq] at hc
    subst hc
    rfl

theorem fractionLexeme_append {f rest : Text} (hf : Fraction f) (hrest : Stops rest) :
    fractionLexeme (f ++ rest) = f := by
  cases hf with
  | none =>
    cases rest with
    | nil => rfl
    | cons c rest =>
      have hc := (hrest c rfl).2
      simp only [List.nil_append, fractionLexeme]
      split
      · rename_i he
        exact absurd (List.cons.inj he).1 hc
      · rfl
  | @digits d hd =>
    have ht := (takeWhile_digits hd.2 fun c hc => (hrest c hc).1).1
    have hne := hd.1
    simp only [List.cons_append, fractionLexeme, ht]

theorem fraction_fractionLexeme (t : Text) : Fraction (fractionLexeme t) := by
  unfold fractionLexeme
  split
  · rename_i rest
    split
    · exact .none
    · rename_i hne
      exact .digits ⟨hne, fun c hc => List.all_eq_true.mp List.all_takeWhile c hc⟩
  · exact .none

theorem unsignedLexeme?_append {d f rest : Text} (hd : Digits d) (hf : Fraction f)
    (hrest : Stops rest) : unsignedLexeme? (d ++ (f ++ rest)) = some (d ++ f) := by
  obtain ⟨htake, hdrop⟩ := takeWhile_digits hd.2 (head?_fraction hf hrest)
  have hne := hd.1
  simp only [unsignedLexeme?, htake, hdrop, fractionLexeme_append hf hrest]

theorem unsignedLexeme?_sound {t w : Text} (h : unsignedLexeme? t = some w) :
    ∃ d f, w = d ++ f ∧ Digits d ∧ Fraction f := by
  unfold unsignedLexeme? at h
  split at h
  · cases h
  · rename_i hne
    cases h
    exact ⟨_, _, rfl, ⟨hne, fun c hc => List.all_eq_true.mp List.all_takeWhile c hc⟩,
      fraction_fractionLexeme _⟩

theorem numberLexeme?_of_unsigned {t w : Text} (h : unsignedLexeme? t = some w) :
    numberLexeme? t = some w := by
  unfold numberLexeme?
  split
  · cases h
  · exact h

theorem numberLexeme?_append {w rest : Text} {n : Int} (h : Number w n) (hrest : Stops rest) :
    numberLexeme? (w ++ rest) = some w := by
  cases h with
  | positive hd hf =>
    rw [List.append_assoc]
    exact numberLexeme?_of_unsigned (unsignedLexeme?_append hd hf hrest)
  | negative hd hf =>
    rw [List.cons_append, List.append_assoc, numberLexeme?, unsignedLexeme?_append hd hf hrest]
    rfl

theorem numberLexeme?_sound {t w : Text} (h : numberLexeme? t = some w) : ∃ n, Number w n := by
  unfold numberLexeme? at h
  split at h
  · obtain ⟨u, hu, rfl⟩ := Option.map_eq_some_iff.mp h
    obtain ⟨d, f, rfl, hd, hf⟩ := unsignedLexeme?_sound hu
    exact ⟨_, .negative hd hf⟩
  · obtain ⟨d, f, rfl, hd, hf⟩ := unsignedLexeme?_sound h
    exact ⟨_, .positive hd hf⟩

/-! ## Lexemes -/

/-- The words that are tokens, with their kinds. -/
inductive Lexeme : TokenKind → Text → Prop where
  | number {w : Text} {n : Int} : Number w n → Lexeme .number w
  | infinity {w : Text} : Infinity w → w ≠ ['*'] → Lexeme .infinity w
  | symbol {c : Char} {kind : TokenKind} : symbol? c = some kind → Lexeme kind [c]

theorem infinityLexeme?_sound {t w : Text} (h : infinityLexeme? t = some w) :
    Infinity w ∧ w ≠ ['*'] := by
  unfold infinityLexeme? at h
  split at h
  · cases h; exact ⟨.minus, by decide⟩
  · cases h; exact ⟨.plus, by decide⟩
  · cases h; exact ⟨.unsigned, by decide⟩
  · cases h

theorem lexeme?_sound {t w : Text} {kind : TokenKind} (h : lexeme? t = some (kind, w)) :
    Lexeme kind w := by
  unfold lexeme? at h
  split at h
  · rename_i hn
    cases h
    obtain ⟨n, hw⟩ := numberLexeme?_sound hn
    exact .number hw
  · split at h
    · rename_i hi
      cases h
      exact .infinity (infinityLexeme?_sound hi).1 (infinityLexeme?_sound hi).2
    · split at h
      · cases h
      · obtain ⟨k, hk, he⟩ := Option.map_eq_some_iff.mp h
        cases he
        exact .symbol hk

/-- The characters that are tokens by themselves. -/
def symbols : List (Char × TokenKind) :=
  [('{', .openBrace), ('}', .closeBrace), ('[', .openBracket), (']', .closeBracket), (',', .comma),
    ('*', .star)]

theorem mem_symbols {c : Char} {kind : TokenKind} (h : symbol? c = some kind) :
    (c, kind) ∈ symbols := by
  unfold symbol? at h
  split at h <;> cases h <;> simp [symbols]

theorem isBlank_of_symbol? {c : Char} {kind : TokenKind} (h : symbol? c = some kind) :
    isBlank c = false :=
  (by decide : ∀ entry ∈ symbols, isBlank entry.1 = false) _ (mem_symbols h)

/-- No symbol prolongs a number. -/
theorem stops_of_symbol? {c : Char} {kind : TokenKind} (h : symbol? c = some kind) :
    isAsciiDigit c = false ∧ c ≠ '.' :=
  (by decide : ∀ entry ∈ symbols, isAsciiDigit entry.1 = false ∧ entry.1 ≠ '.') _ (mem_symbols h)

theorem symbol?_inj {c d : Char} {kind : TokenKind} (hc : symbol? c = some kind)
    (hd : symbol? d = some kind) : d = c :=
  (by decide : ∀ p ∈ symbols, ∀ q ∈ symbols, p.2 = q.2 → q.1 = p.1) _ (mem_symbols hc) _
    (mem_symbols hd) rfl

theorem symbol?_ne_number {c : Char} : symbol? c ≠ some .number := by
  intro h
  simpa [symbols] using mem_symbols h

theorem symbol?_ne_infinity {c : Char} : symbol? c ≠ some .infinity := by
  intro h
  simpa [symbols] using mem_symbols h

/-- A lexeme is found whole, unless it is a number that what follows prolongs. -/
theorem lexeme?_append {kind : TokenKind} {w rest : Text} (h : Lexeme kind w)
    (hrest : kind = .number → Stops rest) : lexeme? (w ++ rest) = some (kind, w) := by
  cases h with
  | number hn => simp only [lexeme?, numberLexeme?_append hn (hrest rfl)]
  | infinity hi hstar =>
    cases hi with
    | minus => rfl
    | plus => rfl
    | unsigned => rfl
    | star => exact absurd rfl hstar
  | symbol hc =>
    unfold symbol? at hc
    split at hc <;> cases hc <;> rfl

/-- The kind of a lexeme follows from its text. -/
theorem Lexeme.kind_eq {kind other : TokenKind} {w : Text} (h : Lexeme kind w)
    (ho : Lexeme other w) : kind = other := by
  have hk : lexeme? (w ++ []) = some (kind, w) := lexeme?_append h fun _ => stops_nil
  have hk' : lexeme? (w ++ []) = some (other, w) := lexeme?_append ho fun _ => stops_nil
  rw [hk] at hk'
  cases hk'
  rfl

theorem Number.solid {w : Text} {n : Int} (h : Number w n) : Solid w := by
  have last : ∀ {d f : Text}, Digits d → Fraction f → StartsSolid (d ++ f).reverse := by
    intro d f hd hf
    rw [List.reverse_append]
    cases hf with
    | none => simpa using hd.reverse.startsSolid
    | digits hf =>
      rw [List.reverse_cons, List.append_assoc]
      exact hf.reverse.startsSolid.append _
  cases h with
  | positive hd hf => exact ⟨hd.startsSolid.append _, last hd hf⟩
  | negative hd hf =>
    refine ⟨⟨'-', _, rfl, by decide⟩, ?_⟩
    rw [List.reverse_cons]
    exact (last hd hf).append _

theorem Lexeme.solid {kind : TokenKind} {w : Text} (h : Lexeme kind w) : Solid w := by
  cases h with
  | number hn => exact hn.solid
  | infinity hi _ =>
    cases hi <;> exact ⟨⟨_, _, rfl, by decide⟩, ⟨_, _, rfl, by decide⟩⟩
  | symbol hc =>
    have hblank := isBlank_of_symbol? hc
    exact ⟨⟨_, _, rfl, hblank⟩, ⟨_, _, rfl, hblank⟩⟩

/-! ## Integer parts -/

theorem decimalValue?_of_isAsciiDigit {c : Char} (h : isAsciiDigit c = true) :
    decimalValue? c = some (c.toNat - '0'.toNat) := by
  have hc := isAsciiDigit_iff.mp h
  have hzero : (decide (0x30 ≤ c.toNat) && decide (c.toNat ≤ 0x30 + 9)) = true := by
    simp only [Bool.and_eq_true, decide_eq_true_eq]
    omega
  simp only [decimalValue?, zeros, List.find?_cons, hzero, Option.map_some]
  rfl

theorem moreDigits?_digits {d : Text} (h : ∀ c ∈ d, isAsciiDigit c = true) :
    Numeral.moreDigits? d = some (d.map fun c => c.toNat - '0'.toNat, []) := by
  induction d with
  | nil => rfl
  | cons c rest ih =>
    have hc := h c (by simp)
    have hlow : c ≠ '_' := ne_of_isAsciiDigit hc (by decide)
    unfold Numeral.moreDigits?
    split
    · rename_i he; cases he
    · rename_i he
      exact absurd (List.cons.inj he).1 hlow
    · rename_i he
      exact absurd (List.cons.inj he).1 hlow
    · rename_i he
      cases he
      rw [decimalValue?_of_isAsciiDigit hc, ih fun c hc => h c (by simp [hc])]
      rfl

theorem digitRun?_digits {d : Text} (h : Digits d) :
    Numeral.digitRun? d = some (d.map fun c => c.toNat - '0'.toNat, []) := by
  obtain ⟨hne, hd⟩ := h
  cases d with
  | nil => exact absurd rfl hne
  | cons c rest =>
    rw [Numeral.digitRun?, decimalValue?_of_isAsciiDigit (hd c (by simp)),
      moreDigits?_digits fun c hc => hd c (by simp [hc])]
    rfl

theorem trimPadding_of_solid {w : Text} (h : Solid w) : Numeral.trimPadding w = w := by
  have start : ∀ {t : Text}, StartsSolid t → t.dropWhile Numeral.isPadding = t := by
    rintro t ⟨c, rest, rfl, hc⟩
    simp [Numeral.isPadding, hc]
  rw [Numeral.trimPadding, start h.1, start h.2, List.reverse_reverse]

theorem splitSign_digits {d : Text} (h : Digits d) : Numeral.splitSign d = (false, d) := by
  unfold Numeral.splitSign
  split
  · exact absurd rfl (ne_of_isAsciiDigit (h.2 '-' (by simp)) (by decide))
  · exact absurd rfl (ne_of_isAsciiDigit (h.2 '+' (by simp)) (by decide))
  · rfl

/-- What the reading of an integer gives after its sign is split off. -/
theorem readInteger_of_splitSign {w d : Text} {negative : Bool} (hw : Solid w)
    (hsign : Numeral.splitSign w = (negative, d)) (hd : Digits d) :
    Numeral.readInteger w =
      if Numeral.digitLimit < d.length then .error (.tooManyDigits d.length)
      else .ok (Numeral.signed negative (magnitude d)) := by
  obtain ⟨c, rest, rfl⟩ := List.exists_cons_of_ne_nil hd.1
  simp only [Numeral.readInteger, trimPadding_of_solid hw, hsign, digitRun?_digits hd,
    List.map_cons, List.length_cons, List.length_map, if_true]
  rfl

theorem takeWhile_point {d f : Text} (hd : ∀ c ∈ d, c ≠ '.') (hf : Fraction f) :
    (d ++ f).takeWhile (· != '.') = d := by
  rw [List.takeWhile_append_of_pos fun c hc => by simpa using hd c hc]
  cases hf <;> simp

section
variable {d f : Text} (hd : Digits d) (hf : Fraction f)
include hd hf

theorem integerPart_digits :
    Numeral.integerPart (d ++ f) =
      if Numeral.digitLimit < d.length then .error (.tooManyDigits d.length)
      else .ok (magnitude d) := by
  have hsolid : Solid d := ⟨hd.startsSolid, hd.reverse.startsSolid⟩
  have hpoint : ∀ c ∈ d, c ≠ '.' := fun c hc => ne_of_isAsciiDigit (hd.2 c hc) (by decide)
  rw [Numeral.integerPart, takeWhile_point hpoint hf,
    readInteger_of_splitSign hsolid (splitSign_digits hd) hd]
  rfl

theorem integerPart_minus_digits :
    Numeral.integerPart ('-' :: (d ++ f)) =
      if Numeral.digitLimit < d.length then .error (.tooManyDigits d.length)
      else .ok (-magnitude d) := by
  have hsolid : Solid ('-' :: d) := by
    refine ⟨⟨'-', d, rfl, by decide⟩, ?_⟩
    rw [List.reverse_cons]
    exact hd.reverse.startsSolid.append _
  have hpoint : ∀ c ∈ '-' :: d, c ≠ '.' := by
    intro c hc
    rcases List.mem_cons.mp hc with rfl | hc
    · decide
    · exact ne_of_isAsciiDigit (hd.2 c hc) (by decide)
  rw [Numeral.integerPart, ← List.cons_append, takeWhile_point hpoint hf,
    readInteger_of_splitSign hsolid rfl hd]
  rfl

end

/-- Reading the integer part of a number gives what the grammar says, unless the digits before the
point are too many. -/
theorem Number.integerPart_eq {w : Text} {n : Int} (h : Number w n) :
    ∃ d, d <:+: w ∧ (∀ c ∈ d, isAsciiDigit c = true) ∧ Numeral.integerPart w =
      if Numeral.digitLimit < d.length then .error (.tooManyDigits d.length) else .ok n := by
  cases h with
  | @positive d f hd hf => exact ⟨d, ⟨[], f, by simp⟩, hd.2, integerPart_digits hd hf⟩
  | @negative d f hd hf => exact ⟨d, ⟨['-'], f, by simp⟩, hd.2, integerPart_minus_digits hd hf⟩

theorem integerPart_overlong {d : Text} (hd : Digits d) (hlen : Numeral.digitLimit < d.length) :
    Numeral.integerPart d = .error (.tooManyDigits d.length) := by
  have hread := integerPart_digits hd .none
  rwa [List.append_nil, if_pos hlen] at hread

/-- The text has a run of too many digits, and the error tells how many they are. -/
def Overlong (t : Text) (e : Numeral.IntegerError) : Prop :=
  ∃ run, run <:+: t ∧ (∀ c ∈ run, isAsciiDigit c = true) ∧ Numeral.digitLimit < run.length ∧
    e = .tooManyDigits run.length

theorem Overlong.of_part {s t : Text} {e : Numeral.IntegerError} (h : Overlong s e)
    (hs : s <:+: t) : Overlong t e := by
  obtain ⟨run, hrun, hdigits, hlen, he⟩ := h
  exact ⟨run, hrun.trans hs, hdigits, hlen, he⟩

theorem DigitRunsWithin.not_overlong {t : Text} {e : Numeral.IntegerError}
    (h : DigitRunsWithin Numeral.digitLimit t) : ¬ Overlong t e := by
  rintro ⟨run, hrun, hdigits, hlen, _⟩
  exact absurd (h run hrun hdigits) (by omega)

/-- The integer part of a number is only refused for the length of its run of digits. -/
theorem Number.overlong {w : Text} {n : Int} {e : Numeral.IntegerError} (h : Number w n)
    (he : Numeral.integerPart w = .error e) : Overlong w e := by
  obtain ⟨d, hpart, hd, hread⟩ := h.integerPart_eq
  rw [hread] at he
  split at he
  · rename_i hlen
    cases he
    exact ⟨d, hpart, hd, hlen, rfl⟩
  · cases he

theorem Number.integerPart {w : Text} {n : Int} (h : Number w n)
    (hruns : DigitRunsWithin Numeral.digitLimit w) : Numeral.integerPart w = .ok n := by
  obtain ⟨d, hpart, hd, he⟩ := h.integerPart_eq
  have hlen := hruns d hpart hd
  rw [he, if_neg (by omega)]

theorem Number.of_integerPart {w : Text} {n m : Int} (h : Number w n)
    (hm : Numeral.integerPart w = .ok m) : Number w m := by
  obtain ⟨d, _, _, he⟩ := h.integerPart_eq
  rw [he] at hm
  split at hm
  · cases hm
  · cases hm
    exact h

/-- The word is no number, or a number whose integer part is read. -/
def Legible (w : Text) : Prop :=
  ∀ n, Number w n → Numeral.integerPart w = .ok n

theorem DigitRunsWithin.legible {w : Text} (h : DigitRunsWithin Numeral.digitLimit w) :
    Legible w :=
  fun _ hn => hn.integerPart h

theorem legible_of_integerPart {w : Text} {m : Int} (h : Numeral.integerPart w = .ok m) :
    Legible w := by
  intro n hn
  obtain ⟨d, _, _, he⟩ := hn.integerPart_eq
  rw [he] at h ⊢
  split at h
  · cases h
  · rename_i hlen
    rw [if_neg hlen]

theorem Lexeme.legible {kind : TokenKind} {w : Text} (h : Lexeme kind w) (hkind : kind ≠ .number) :
    Legible w := by
  intro n hn
  exact absurd (h.kind_eq (.number hn)) hkind

theorem legible_symbol {c : Char} (hc : (symbol? c).isSome = true) : Legible [c] := by
  obtain ⟨kind, hkind⟩ := Option.isSome_iff_exists.mp hc
  have hsymbol : Lexeme kind [c] := .symbol hkind
  refine hsymbol.legible ?_
  rintro rfl
  exact symbol?_ne_number hkind

theorem legible_bracket {c : Char} (h : c = '[' ∨ c = ']') : Legible [c] := by
  rcases h with rfl | rfl
  · exact legible_symbol rfl
  · exact legible_symbol rfl

/-! ## Integers in decimal digits -/

theorem digits_toDigits (n : Nat) : Digits (Nat.toDigits 10 n) := by
  refine ⟨Nat.toDigits_ne_nil, fun c hc => ?_⟩
  have hdigit := Nat.isDigit_of_mem_toDigits (by decide) (by decide) hc
  rw [isAsciiDigit_iff]
  simpa [Char.isDigit, UInt32.le_iff_toNat_le] using hdigit

theorem magnitude_toDigits (n : Nat) : magnitude (Nat.toDigits 10 n) = n := by
  have h := Nat.ofDigitChars_ten_toDigits (n := n)
  rw [Nat.ofDigitChars_eq_foldl] at h
  rw [magnitude, Numeral.ofDigits, List.foldl_map]
  exact h

theorem number_decimal (n : Int) : Number (Numeral.decimal n) n := by
  cases n with
  | ofNat n =>
    have h := Number.positive (digits_toDigits n) .none
    rwa [List.append_nil, magnitude_toDigits] at h
  | negSucc n =>
    have h := Number.negative (digits_toDigits (n + 1)) .none
    rwa [List.append_nil, magnitude_toDigits] at h

theorem DigitRunsWithin.cons {limit : Nat} {t : Text} {c : Char} (hc : isAsciiDigit c = false)
    (h : DigitRunsWithin limit t) : DigitRunsWithin limit (c :: t) := by
  intro run hrun hdigits
  rcases List.infix_cons_iff.mp hrun with hprefix | hinfix
  · cases run with
    | nil => exact Nat.zero_le limit
    | cons d run =>
      have hd := hdigits d (by simp)
      rw [(List.cons_prefix_cons.mp hprefix).1, hc] at hd
      cases hd
  · exact h run hinfix hdigits

theorem legible_decimal {n : Int}
    (h : (Nat.toDigits 10 n.natAbs).length ≤ Numeral.digitLimit) : Legible (Numeral.decimal n) := by
  apply DigitRunsWithin.legible
  have hdigits := digitRunsWithin_of_length h
  cases n with
  | ofNat n => exact hdigits
  | negSucc n => exact hdigits.cons (by decide)

end Interval
end Phrasebook
