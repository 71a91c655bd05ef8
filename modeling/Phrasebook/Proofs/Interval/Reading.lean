import Phrasebook.Proofs.Interval.Scan
import Phrasebook.Proofs.Outcome

/-!
# Phrasebook.Proofs.Interval.Reading

Reading an interval from tokens, against the grammar of words.

* `ofTokens_sound`: the tokens that are taken are legible and make an interval, and it is the one
  that is read.
* `ofTokens_complete`: the legible tokens of an interval are taken, whatever follows them.
* `number_of_ofTokens_integer`: apart from defects of the notation, only a number that cannot be read
  stops the reading.
-/

namespace Phrasebook
namespace Interval

open Unicode Text

/-! ## Words of a kind -/

theorem Lexeme.exists_number {w : Text} (h : Lexeme .number w) : ∃ n, Number w n := by
  cases h with
  | number hn => exact ⟨_, hn⟩
  | symbol hc => exact absurd hc symbol?_ne_number

theorem Lexeme.isInfinity {w : Text} (h : Lexeme .infinity w) : Infinity w := by
  cases h with
  | infinity hi _ => exact hi
  | symbol hc => exact absurd hc symbol?_ne_infinity

theorem Lexeme.text_eq {c : Char} {kind : TokenKind} {w : Text} (h : Lexeme kind w)
    (hc : symbol? c = some kind) : w = [c] := by
  cases h with
  | number => exact absurd hc symbol?_ne_number
  | infinity => exact absurd hc symbol?_ne_infinity
  | symbol hd => rw [symbol?_inj hc hd]

/-- The kind of a bracket tells which way it opens. -/
theorem bracket_kind {c : Char} {kind : TokenKind} (h : Lexeme kind [c]) (hc : c = '[' ∨ c = ']') :
    (kind = .openBracket ∨ kind = .closeBracket) ∧ (kind = .openBracket ↔ c = '[') ∧
      (kind = .closeBracket ↔ c = ']') := by
  rcases hc with rfl | rfl
  · have hkind : kind = .openBracket := h.kind_eq (.symbol rfl)
    subst hkind
    decide
  · have hkind : kind = .closeBracket := h.kind_eq (.symbol rfl)
    subst hkind
    decide

theorem bracket_text {kind : TokenKind} {w : Text} (h : Lexeme kind w)
    (hkind : kind = .openBracket ∨ kind = .closeBracket) : ∃ c, w = [c] ∧ (c = '[' ∨ c = ']') := by
  rcases hkind with rfl | rfl
  · exact ⟨'[', h.text_eq rfl, .inl rfl⟩
  · exact ⟨']', h.text_eq rfl, .inr rfl⟩

/-! ## Bounds -/

theorem Number.not_infinity {w : Text} {n : Int} (h : Number w n) : ¬ Infinity w := by
  intro hi
  have hl : Lexeme .number w := .number h
  by_cases hstar : w = ['*']
  · have hs : Lexeme .star ['*'] := .symbol rfl
    have := hl.kind_eq (hstar ▸ hs)
    cases this
  · have := hl.kind_eq (.infinity hi hstar)
    cases this

theorem readBound_number {w : Text} {n : Int} (h : Number w n) :
    readBound w = (Numeral.integerPart w).map .int := by
  have hne : ∀ {v : Text}, Infinity v → w ≠ v := by
    rintro v hv rfl
    exact h.not_infinity hv
  have hminus : w ≠ "-Inf".toList := hne .minus
  have hplus : w ≠ "+Inf".toList := hne .plus
  have hunsigned : w ≠ "Inf".toList := hne .unsigned
  have hstar : w ≠ "*".toList := hne .star
  simp only [readBound, hminus, hplus, hunsigned, hstar, decide_false, Bool.or_self,
    Bool.false_eq_true, if_false]

/-- The kinds of tokens that a bound may have. -/
def boundKinds : List TokenKind := [.number, .infinity, .star]

theorem bound_word {kind : TokenKind} {w : Text} (h : Lexeme kind w) (hkind : kind ∈ boundKinds) :
    (∃ n, Number w n) ∨ Infinity w := by
  simp only [boundKinds, List.mem_cons, List.not_mem_nil, or_false] at hkind
  rcases hkind with rfl | rfl | rfl
  · exact .inl h.exists_number
  · exact .inr h.isInfinity
  · have hw : w = ['*'] := h.text_eq rfl
    exact .inr (hw ▸ .star)

theorem lexeme_of_infinity {w : Text} (h : Infinity w) : ∃ kind ∈ boundKinds, Lexeme kind w := by
  cases h with
  | minus => exact ⟨.infinity, by decide, .infinity .minus (by decide)⟩
  | plus => exact ⟨.infinity, by decide, .infinity .plus (by decide)⟩
  | unsigned => exact ⟨.infinity, by decide, .infinity .unsigned (by decide)⟩
  | star => exact ⟨.star, by decide, .symbol rfl⟩

/-- A bound that is read is the one that the word denotes, on either side. -/
theorem readBound_sound {kind : TokenKind} {w : Text} {b : Bound} (h : Lexeme kind w)
    (hkind : kind ∈ boundKinds) (hb : readBound w = .ok b) :
    LowBound w (leftBound b) ∧ HighBound w b := by
  rcases bound_word h hkind with ⟨n, hn⟩ | hi
  · rw [readBound_number hn] at hb
    obtain ⟨m, hm, rfl⟩ := map_eq_ok.mp hb
    exact ⟨.number (hn.of_integerPart hm), .number (hn.of_integerPart hm)⟩
  · cases hi <;> cases hb
    · exact ⟨.infinity .minus, .negInf⟩
    · exact ⟨.infinity .plus, .posInf .plus (by decide)⟩
    · exact ⟨.infinity .unsigned, .posInf .unsigned (by decide)⟩
    · exact ⟨.infinity .star, .posInf .star (by decide)⟩

theorem legible_of_readBound {w : Text} {b : Bound} (h : readBound w = .ok b) : Legible w := by
  intro n hn
  rw [readBound_number hn] at h
  obtain ⟨m, hm, _⟩ := map_eq_ok.mp h
  exact legible_of_integerPart hm n hn

theorem LowBound.readBound {w : Text} {low : Bound} (h : LowBound w low) (hw : Legible w) :
    ∃ b, Interval.readBound w = .ok b ∧ leftBound b = low := by
  cases h with
  | number hn =>
    rw [readBound_number hn, hw _ hn]
    exact ⟨_, rfl, rfl⟩
  | infinity hi => cases hi <;> exact ⟨_, rfl, rfl⟩

theorem HighBound.readBound {w : Text} {high : Bound} (h : HighBound w high) (hw : Legible w) :
    Interval.readBound w = .ok high := by
  cases h with
  | number hn =>
    rw [readBound_number hn, hw _ hn]
    rfl
  | negInf => rfl
  | posInf hi hne =>
    cases hi with
    | minus => exact absurd rfl hne
    | plus => rfl
    | unsigned => rfl
    | star => rfl

/-- The token of a bound has one of the kinds of a bound. -/
theorem kind_mem_boundKinds {kind : TokenKind} {w : Text} (h : Lexeme kind w)
    (hw : (∃ n, Number w n) ∨ Infinity w) : kind ∈ boundKinds := by
  rcases hw with ⟨n, hn⟩ | hi
  · rw [h.kind_eq (.number hn)]
    decide
  · obtain ⟨other, hother, hlexeme⟩ := lexeme_of_infinity hi
    rw [h.kind_eq hlexeme]
    exact hother

theorem LowBound.kind_mem {kind : TokenKind} {w : Text} {low : Bound} (h : LowBound w low)
    (hw : Lexeme kind w) : kind ∈ boundKinds := by
  cases h with
  | number hn => exact kind_mem_boundKinds hw (.inl ⟨_, hn⟩)
  | infinity hi => exact kind_mem_boundKinds hw (.inr hi)

theorem HighBound.kind_mem {kind : TokenKind} {w : Text} {high : Bound} (h : HighBound w high)
    (hw : Lexeme kind w) : kind ∈ boundKinds := by
  cases h with
  | number hn => exact kind_mem_boundKinds hw (.inl ⟨_, hn⟩)
  | negInf => exact kind_mem_boundKinds hw (.inr .minus)
  | posInf hi _ => exact kind_mem_boundKinds hw (.inr hi)

theorem integerPart_of_readBound_error {kind : TokenKind} {w : Text} {e : Numeral.IntegerError}
    (h : Lexeme kind w) (hkind : kind ∈ boundKinds) (he : readBound w = .error e) :
    kind = .number ∧ Numeral.integerPart w = .error e := by
  rcases bound_word h hkind with ⟨n, hn⟩ | hi
  · rw [readBound_number hn] at he
    exact ⟨h.kind_eq (.number hn), map_eq_error.mp he⟩
  · cases hi <;> cases he

/-! ## Steps of the reader -/

section Reader

variable {ending : Ending}

theorem take_eq_ok {kinds : List TokenKind} {tokens rest : List Token} {token : Token} :
    take kinds ending tokens = .ok (token, rest) ↔ tokens = token :: rest ∧ token.kind ∈ kinds := by
  cases tokens with
  | nil => simp [take]
  | cons first later =>
    simp only [take]
    split
    · rename_i hk
      constructor
      · rintro ⟨⟩
        exact ⟨rfl, hk⟩
      · rintro ⟨⟨⟩, _⟩
        rfl
    · rename_i hk
      constructor
      · intro h
        cases h
      · rintro ⟨⟨⟩, h⟩
        exact absurd h hk

theorem take_ne_integer {kinds : List TokenKind} {tokens : List Token} {e : Numeral.IntegerError} :
    take kinds ending tokens ≠ .error (.integer e) := by
  cases tokens with
  | nil => simp [take]
  | cons first later =>
    simp only [take]
    split <;> simp

theorem takeBound_eq_ok {tokens rest : List Token} {b : Bound} :
    takeBound ending tokens = .ok (b, rest) ↔
      ∃ token, tokens = token :: rest ∧ token.kind ∈ boundKinds ∧ readBound token.text = .ok b := by
  simp only [takeBound, bind_eq_ok, Prod.exists, take_eq_ok, mapError_eq_ok, Except.ok.injEq,
    Prod.mk.injEq]
  constructor
  · rintro ⟨token, _, ⟨rfl, hkind⟩, _, hb, rfl, rfl⟩
    exact ⟨token, rfl, hkind, hb⟩
  · rintro ⟨token, rfl, hkind, hb⟩
    exact ⟨token, rest, ⟨rfl, hkind⟩, b, hb, rfl, rfl⟩

theorem takeBound_eq_integer {tokens : List Token} {e : Numeral.IntegerError}
    (h : takeBound ending tokens = .error (.integer e)) :
    ∃ token rest, tokens = token :: rest ∧ token.kind ∈ boundKinds ∧
      readBound token.text = .error e := by
  rcases bind_eq_error.mp h with htake | ⟨⟨token, rest⟩, htake, hread⟩
  · exact absurd htake take_ne_integer
  · obtain ⟨rfl, hkind⟩ := take_eq_ok.mp htake
    rcases bind_eq_error.mp hread with hbound | ⟨_, _, hok⟩
    · obtain ⟨_, he, hcause⟩ := mapError_eq_error.mp hbound
      cases hcause
      exact ⟨token, rest, rfl, hkind, he⟩
    · cases hok

theorem setNumber_eq_ok {token : Token} {n : Int} :
    setNumber token = .ok n ↔
      token.kind = .number ∧ Numeral.integerPart token.text = .ok n := by
  simp only [setNumber]
  split
  · rename_i hk
    rw [mapError_eq_ok]
    exact ⟨fun h => ⟨hk, h⟩, fun h => h.2⟩
  · rename_i hk
    exact ⟨nofun, fun h => absurd h.1 hk⟩

/-- A number of a set that is read is the one that its word denotes. -/
theorem number_of_setNumber {token : Token} {n : Int} (hlexeme : Lexeme token.kind token.text)
    (h : setNumber token = .ok n) : Number token.text n ∧ Legible token.text := by
  obtain ⟨hkind, hread⟩ := setNumber_eq_ok.mp h
  obtain ⟨m, hm⟩ := (hkind ▸ hlexeme).exists_number
  exact ⟨hm.of_integerPart hread, legible_of_integerPart hread⟩

theorem setNumber_eq_integer {token : Token} {e : Numeral.IntegerError}
    (h : setNumber token = .error (.integer e)) :
    token.kind = .number ∧ Numeral.integerPart token.text = .error e := by
  simp only [setNumber] at h
  split at h
  · rename_i hk
    obtain ⟨_, he, hcause⟩ := mapError_eq_error.mp h
    cases hcause
    exact ⟨hk, he⟩
  · cases h

/-- A range is read from five tokens. -/
theorem rangeAfter_eq_ok {left : Token} {tokens : List Token} {parsed : Parsed} :
    rangeAfter left ending tokens = .ok parsed ↔
      ∃ lowToken comma highToken right rest low high,
        tokens = lowToken :: comma :: highToken :: right :: rest ∧
        lowToken.kind ∈ boundKinds ∧ readBound lowToken.text = .ok low ∧
        comma.kind = .comma ∧
        highToken.kind ∈ boundKinds ∧ readBound highToken.text = .ok high ∧
        (right.kind = .openBracket ∨ right.kind = .closeBracket) ∧
        parsed = ⟨.range (leftBound low) high (left.kind = .openBracket)
          (right.kind = .closeBracket), right.stop, rest⟩ := by
  constructor
  · intro h
    obtain ⟨⟨low, tokens₁⟩, hlow, h₁⟩ := bind_eq_ok.mp h
    obtain ⟨⟨comma, tokens₂⟩, hcomma, h₂⟩ := bind_eq_ok.mp h₁
    obtain ⟨⟨high, tokens₃⟩, hhigh, h₃⟩ := bind_eq_ok.mp h₂
    obtain ⟨⟨right, rest⟩, hright, h₄⟩ := bind_eq_ok.mp h₃
    obtain ⟨lowToken, rfl, hlowKind, hlowRead⟩ := takeBound_eq_ok.mp hlow
    obtain ⟨rfl, hcommaKind⟩ := take_eq_ok.mp hcomma
    obtain ⟨highToken, rfl, hhighKind, hhighRead⟩ := takeBound_eq_ok.mp hhigh
    obtain ⟨rfl, hrightKind⟩ := take_eq_ok.mp hright
    cases h₄
    exact ⟨lowToken, comma, highToken, right, rest, low, high, rfl, hlowKind, hlowRead,
      by simpa using hcommaKind, hhighKind, hhighRead, by simpa using hrightKind, rfl⟩
  · rintro ⟨lowToken, comma, highToken, right, rest, low, high, rfl, hlowKind, hlowRead, hcomma,
      hhighKind, hhighRead, hright, rfl⟩
    refine bind_eq_ok.mpr ⟨_, takeBound_eq_ok.mpr ⟨lowToken, rfl, hlowKind, hlowRead⟩, ?_⟩
    refine bind_eq_ok.mpr ⟨_, take_eq_ok.mpr ⟨rfl, by simpa using hcomma⟩, ?_⟩
    refine bind_eq_ok.mpr ⟨_, takeBound_eq_ok.mpr ⟨highToken, rfl, hhighKind, hhighRead⟩, ?_⟩
    exact bind_eq_ok.mpr ⟨_, take_eq_ok.mpr ⟨rfl, by simpa using hright⟩, rfl⟩

theorem rangeAfter_eq_integer {left : Token} {tokens : List Token} {e : Numeral.IntegerError}
    (h : rangeAfter left ending tokens = .error (.integer e)) :
    ∃ token ∈ tokens, token.kind ∈ boundKinds ∧ readBound token.text = .error e := by
  rcases bind_eq_error.mp h with hlow | ⟨⟨low, tokens₁⟩, hlow, h₁⟩
  · obtain ⟨token, rest, rfl, hkind, he⟩ := takeBound_eq_integer hlow
    exact ⟨token, by simp, hkind, he⟩
  rcases bind_eq_error.mp h₁ with hcomma | ⟨⟨comma, tokens₂⟩, hcomma, h₂⟩
  · exact absurd hcomma take_ne_integer
  rcases bind_eq_error.mp h₂ with hhigh | ⟨⟨high, tokens₃⟩, hhigh, h₃⟩
  · obtain ⟨lowToken, rfl, _, _⟩ := takeBound_eq_ok.mp hlow
    obtain ⟨rfl, _⟩ := take_eq_ok.mp hcomma
    obtain ⟨token, rest, rfl, hkind, he⟩ := takeBound_eq_integer hhigh
    exact ⟨token, by simp, hkind, he⟩
  rcases bind_eq_error.mp h₃ with hright | ⟨_, _, hok⟩
  · exact absurd hright take_ne_integer
  · cases hok

/-! ## Sets -/

theorem SetWords.length_pos {words : List Text} {values : List Int} (h : SetWords words values) :
    0 < words.length := by
  cases h <;> simp

/-- The numbers of a set end at its closing brace, and are those of its words. -/
theorem setNumbers_sound {tokens after : List Token} {values : List Int} {stop : Nat}
    (htokens : ∀ token ∈ tokens, Lexeme token.kind token.text)
    (h : setNumbers ending tokens = .ok (values, stop, after)) :
    ∃ used last, tokens = used ++ last :: after ∧ stop = last.stop ∧
      SetWords ((used ++ [last]).map Token.text) values ∧
      ∀ token ∈ used ++ [last], Legible token.text := by
  fun_induction setNumbers ending tokens generalizing values with
  | case1 => cases h
  | case2 token =>
    obtain ⟨_, _, hend⟩ := bind_eq_ok.mp h
    cases hend
  | case3 token mark rest ih =>
    obtain ⟨n, hnumber, hmark⟩ := bind_eq_ok.mp h
    obtain ⟨hn, hlegible⟩ := number_of_setNumber (htokens token (by simp)) hnumber
    have hlexeme := htokens mark (by simp)
    split at hmark
    · rename_i hcomma
      obtain ⟨⟨values, stop, after⟩, hrest, hok⟩ := bind_eq_ok.mp hmark
      cases hok
      obtain ⟨used, last, rfl, rfl, hwords, hrestLegible⟩ :=
        ih (fun t ht => htokens t (by simp [ht])) hrest
      refine ⟨token :: mark :: used, last, rfl, rfl, ?_, ?_⟩
      · have htext : mark.text = [','] := (hcomma ▸ hlexeme).text_eq rfl
        simp only [List.cons_append, List.map_cons, htext]
        exact .more hn hwords
      · intro t ht
        rcases List.mem_cons.mp ht with rfl | ht
        · exact hlegible
        rcases List.mem_cons.mp ht with rfl | ht
        · exact hlexeme.legible (by simp [hcomma])
        · exact hrestLegible t ht
    · rename_i hbrace
      cases hmark
      refine ⟨[token], mark, rfl, rfl, ?_, ?_⟩
      · have htext : mark.text = ['}'] := (hbrace ▸ hlexeme).text_eq rfl
        simp only [List.cons_append, List.nil_append, List.map_cons, List.map_nil, htext]
        exact .last hn
      · intro t ht
        simp only [List.cons_append, List.nil_append, List.mem_cons, List.not_mem_nil,
          or_false] at ht
        rcases ht with rfl | rfl
        · exact hlegible
        · exact hlexeme.legible (by simp [hbrace])
    · cases hmark

/-- The words of a set are read to its closing brace, whatever follows. -/
theorem setNumbers_complete {used after : List Token} {last : Token} {words : List Text}
    {values : List Int} (hwords : SetWords words values)
    (htokens : ∀ token ∈ used ++ [last], Lexeme token.kind token.text)
    (hlegible : ∀ token ∈ used ++ [last], Legible token.text)
    (h : (used ++ [last]).map Token.text = words) :
    setNumbers ending (used ++ last :: after) = .ok (values, last.stop, after) := by
  induction hwords generalizing used with
  | @last w n hn =>
    obtain ⟨token, rfl⟩ : ∃ token, used = [token] := by
      have hlen := congrArg List.length h
      simp only [List.length_map, List.length_append, List.length_cons, List.length_nil] at hlen
      exact List.length_eq_one_iff.mp (by omega)
    simp only [List.cons_append, List.nil_append, List.map_cons, List.map_nil, List.cons.injEq,
      and_true] at h
    obtain ⟨rfl, hbrace⟩ := h
    have hkind : token.kind = .number := (htokens token (by simp)).kind_eq (.number hn)
    have hlast : last.kind = .closeBrace :=
      (hbrace ▸ htokens last (by simp)).kind_eq (.symbol rfl)
    have hread := hlegible token (by simp) _ hn
    rw [List.singleton_append, setNumbers]
    simp only [setNumber_eq_ok.mpr ⟨hkind, hread⟩, hlast]
    rfl
  | @more w n words values hn hrest ih =>
    obtain ⟨token, mark, used, rfl⟩ : ∃ token mark later, used = token :: mark :: later := by
      have hlen := congrArg List.length h
      have hpos := hrest.length_pos
      simp only [List.length_map, List.length_append, List.length_cons, List.length_nil] at hlen
      match used, hlen with
      | [], hlen => simp only [List.length_nil] at hlen; omega
      | [_], hlen => simp only [List.length_cons, List.length_nil] at hlen; omega
      | token :: mark :: later, _ => exact ⟨token, mark, later, rfl⟩
    simp only [List.cons_append, List.map_cons, List.cons.injEq] at h
    obtain ⟨rfl, hcomma, hlater⟩ := h
    have hkind : token.kind = .number := (htokens token (by simp)).kind_eq (.number hn)
    have hmark : mark.kind = .comma := (hcomma ▸ htokens mark (by simp)).kind_eq (.symbol rfl)
    have hread := hlegible token (by simp) _ hn
    have hmore := ih (fun t ht => htokens t (by simp_all)) (fun t ht => hlegible t (by simp_all)) hlater
    rw [List.cons_append, List.cons_append, setNumbers]
    simp only [setNumber_eq_ok.mpr ⟨hkind, hread⟩, hmark, hmore]
    rfl

theorem setNumbers_of_error {token : Token} {fault : Fault} (h : setNumber token = .error fault)
    (rest : List Token) : setNumbers ending (token :: rest) = .error fault := by
  cases rest with
  | nil => rw [setNumbers, h]; rfl
  | cons mark rest => rw [setNumbers, h]; rfl

/-- Of the numbers of a set, one that cannot be read is the only thing beside the notation that can
be wrong. -/
theorem setNumbers_eq_integer {tokens : List Token} {e : Numeral.IntegerError}
    (h : setNumbers ending tokens = .error (.integer e)) :
    ∃ token ∈ tokens, token.kind = .number ∧ Numeral.integerPart token.text = .error e := by
  fun_induction setNumbers ending tokens with
  | case1 => cases h
  | case2 token =>
    rcases bind_eq_error.mp h with hnumber | ⟨_, _, hend⟩
    · exact ⟨token, by simp, setNumber_eq_integer hnumber⟩
    · cases hend
  | case3 token mark rest ih =>
    rcases bind_eq_error.mp h with hnumber | ⟨n, _, hmark⟩
    · exact ⟨token, by simp, setNumber_eq_integer hnumber⟩
    split at hmark
    · rcases bind_eq_error.mp hmark with hrest | ⟨_, _, hok⟩
      · obtain ⟨t, ht, he⟩ := ih hrest
        exact ⟨t, by simp [ht], he⟩
      · cases hok
    · cases hmark
    · cases hmark

/-! ## Intervals -/

theorem ne_number_of_bracket {kind : TokenKind} (h : kind = .openBracket ∨ kind = .closeBracket) :
    kind ≠ .number := by
  rcases h with rfl | rfl <;> decide

theorem rangeAfter_sound {left : Token} {tokens : List Token} {parsed : Parsed}
    (htokens : ∀ token ∈ left :: tokens, Lexeme token.kind token.text)
    (hleft : left.kind = .openBracket ∨ left.kind = .closeBracket)
    (h : rangeAfter left ending tokens = .ok parsed) :
    ∃ used last, left :: tokens = used ++ last :: parsed.rest ∧ parsed.stop = last.stop ∧
      Words ((used ++ [last]).map Token.text) parsed.interval ∧
      ∀ token ∈ used ++ [last], Legible token.text := by
  obtain ⟨lowToken, comma, highToken, right, after, low, high, rfl, hlowKind, hlow, hcomma,
    hhighKind, hhigh, hright, rfl⟩ := rangeAfter_eq_ok.mp h
  have hleftLexeme := htokens left (by simp)
  have hcommaLexeme := htokens comma (by simp)
  have hrightLexeme := htokens right (by simp)
  refine ⟨[left, lowToken, comma, highToken], right, rfl, rfl, ?_, ?_⟩
  · have hlowWord := (readBound_sound (htokens lowToken (by simp)) hlowKind hlow).1
    have hhighWord := (readBound_sound (htokens highToken (by simp)) hhighKind hhigh).2
    have hcommaText : comma.text = [','] := (hcomma ▸ hcommaLexeme).text_eq rfl
    obtain ⟨l, hl, hleftSign⟩ := bracket_text hleftLexeme hleft
    obtain ⟨r, hr, hrightSign⟩ := bracket_text hrightLexeme hright
    have hopen := (bracket_kind (hl ▸ hleftLexeme) hleftSign).2.1
    have hclose := (bracket_kind (hr ▸ hrightLexeme) hrightSign).2.2
    simp only [List.cons_append, List.nil_append, List.map_cons, List.map_nil, hl, hr, hcommaText,
      hopen, hclose]
    exact .range hleftSign hlowWord hhighWord hrightSign
  · intro token htoken
    simp only [List.cons_append, List.nil_append, List.mem_cons, List.not_mem_nil, or_false]
      at htoken
    rcases htoken with rfl | rfl | rfl | rfl | rfl
    · exact hleftLexeme.legible (ne_number_of_bracket hleft)
    · exact legible_of_readBound hlow
    · exact hcommaLexeme.legible (by simp [hcomma])
    · exact legible_of_readBound hhigh
    · exact hrightLexeme.legible (ne_number_of_bracket hright)

/-- The tokens that are taken make an interval, and it is the one that is read. -/
theorem ofTokens_sound {lexed : Lexed} {parsed : Parsed}
    (htokens : ∀ token ∈ lexed.tokens, Lexeme token.kind token.text)
    (h : ofTokens lexed = .ok parsed) :
    ∃ used last, lexed.tokens = used ++ last :: parsed.rest ∧ parsed.stop = last.stop ∧
      Words ((used ++ [last]).map Token.text) parsed.interval ∧
      ∀ token ∈ used ++ [last], Legible token.text := by
  unfold ofTokens at h
  split at h
  · split at h <;> cases h
  · rename_i first rest hfirst
    rw [hfirst] at htokens ⊢
    have hlexeme := htokens first (by simp)
    split at h
    · rename_i hbrace
      obtain ⟨⟨values, stop, after⟩, hset, hok⟩ := bind_eq_ok.mp h
      cases hok
      obtain ⟨used, last, rfl, rfl, hwords, hlegible⟩ :=
        setNumbers_sound (fun t ht => htokens t (by simp [ht])) hset
      refine ⟨first :: used, last, rfl, rfl, ?_, ?_⟩
      · have htext : first.text = ['{'] := (hbrace ▸ hlexeme).text_eq rfl
        simp only [List.cons_append, List.map_cons, htext]
        exact .set hwords
      · intro t ht
        rcases List.mem_cons.mp ht with rfl | ht
        · exact hlexeme.legible (by simp [hbrace])
        · exact hlegible t ht
    · rename_i hopen
      exact rangeAfter_sound htokens (.inl hopen) h
    · rename_i hclose
      exact rangeAfter_sound htokens (.inr hclose) h
    · cases h

/-- The tokens of an interval are taken, whatever follows them. -/
theorem ofTokens_complete {lexed : Lexed} {used after : List Token} {last : Token}
    {interval : Interval} (hlexed : lexed.tokens = used ++ last :: after)
    (htokens : ∀ token ∈ used ++ [last], Lexeme token.kind token.text)
    (hlegible : ∀ token ∈ used ++ [last], Legible token.text)
    (h : Words ((used ++ [last]).map Token.text) interval) :
    ofTokens lexed = .ok ⟨interval, last.stop, after⟩ := by
  generalize hw : (used ++ [last]).map Token.text = words at h
  cases h with
  | @set words values hset =>
    cases used with
    | nil =>
      have hpos := hset.length_pos
      simp only [List.nil_append, List.map_cons, List.map_nil, List.cons.injEq] at hw
      rw [← hw.2] at hpos
      cases hpos
    | cons first used =>
      simp only [List.cons_append, List.map_cons, List.cons.injEq] at hw
      have hkind : first.kind = .openBrace :=
        (hw.1 ▸ htokens first (by simp)).kind_eq (.symbol rfl)
      have hread : setNumbers lexed.ending (used ++ last :: after) = .ok (values, last.stop, after) :=
        setNumbers_complete hset (fun t ht => htokens t (by simp_all))
          (fun t ht => hlegible t (by simp_all)) hw.2
      simp only [ofTokens, hlexed, List.cons_append, hkind, hread]
      rfl
  | @range left right lowWord highWord low high hleft hlow hhigh hright =>
    obtain ⟨first, lowToken, comma, highToken, rfl⟩ :
        ∃ first lowToken comma highToken, used = [first, lowToken, comma, highToken] := by
      have hlen := congrArg List.length hw
      simp only [List.length_map, List.length_append, List.length_cons, List.length_nil] at hlen
      match used, hlen with
      | [a, b, c, d], _ => exact ⟨a, b, c, d, rfl⟩
    simp only [List.cons_append, List.nil_append, List.map_cons, List.map_nil, List.cons.injEq,
      and_true] at hw
    obtain ⟨hfirst, rfl, hcomma, rfl, hlast⟩ := hw
    have hleftKind := bracket_kind (hfirst ▸ htokens first (by simp)) hleft
    have hrightKind := bracket_kind (hlast ▸ htokens last (by simp)) hright
    have hcommaKind : comma.kind = .comma :=
      (hcomma ▸ htokens comma (by simp)).kind_eq (.symbol rfl)
    obtain ⟨b, hb, hlowBound⟩ := hlow.readBound (hlegible lowToken (by simp))
    have hrange : rangeAfter first lexed.ending (lowToken :: comma :: highToken :: last :: after) =
        .ok ⟨.range low high (left = '[') (right = ']'), last.stop, after⟩ :=
      rangeAfter_eq_ok.mpr ⟨lowToken, comma, highToken, last, after, b, high, rfl,
        hlow.kind_mem (htokens lowToken (by simp)), hb, hcommaKind,
        hhigh.kind_mem (htokens highToken (by simp)),
        hhigh.readBound (hlegible highToken (by simp)), hrightKind.1, by
          simp only [hlowBound, hleftKind.2.1, hrightKind.2.2]⟩
    simp only [ofTokens, hlexed, List.cons_append, List.nil_append]
    rcases hleftKind.1 with hkind | hkind <;> simp only [hkind, hrange]

/-- Apart from defects of the notation, only a number that cannot be read stops the reading. -/
theorem number_of_ofTokens_integer {lexed : Lexed} {e : Numeral.IntegerError}
    (htokens : ∀ token ∈ lexed.tokens, Lexeme token.kind token.text)
    (h : ofTokens lexed = .error (.integer e)) :
    ∃ token ∈ lexed.tokens, token.kind = .number ∧ Numeral.integerPart token.text = .error e := by
  unfold ofTokens at h
  split at h
  · split at h <;> cases h
  · rename_i first rest hfirst
    rw [hfirst] at htokens ⊢
    have bracket : rangeAfter first lexed.ending rest = .error (.integer e) →
        ∃ token ∈ first :: rest,
          token.kind = .number ∧ Numeral.integerPart token.text = .error e := by
      intro hrange
      obtain ⟨token, htoken, hkind, he⟩ := rangeAfter_eq_integer hrange
      have hmem : token ∈ first :: rest := List.mem_cons_of_mem _ htoken
      exact ⟨token, hmem, integerPart_of_readBound_error (htokens token hmem) hkind he⟩
    split at h
    · rcases bind_eq_error.mp h with hset | ⟨_, _, hok⟩
      · obtain ⟨token, htoken, he⟩ := setNumbers_eq_integer hset
        exact ⟨token, List.mem_cons_of_mem _ htoken, he⟩
      · cases hok
    · exact bracket h
    · exact bracket h
    · cases h

end Reader

end Interval
end Phrasebook
