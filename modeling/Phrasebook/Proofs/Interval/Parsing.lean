import Phrasebook.Proofs.Interval.Reading

/-!
# Phrasebook.Proofs.Interval.Parsing

Reading a whole text as an interval, against the notation.

* `parse_sound`: an interval that is read is the one that the text denotes.
* `parse_complete`: a text that denotes an interval is read, if its numbers are not too long.
* `overlong_of_parse`: a reading that fails for another reason than a defect of the notation fails at
  a run of too many digits.

`parse_agrees_with_grammar` puts them together for texts without overlong numbers.
-/

namespace Phrasebook
namespace Interval

open Unicode Text

/-! ## The words of an interval -/

theorem SetWords.lexemes {words : List Text} {values : List Int} (h : SetWords words values) :
    Lexemes words := by
  have hbrace : symbol? '}' = some .closeBrace := rfl
  have hcomma : symbol? ',' = some .comma := rfl
  induction h with
  | last hn => exact .number hn hbrace .nil
  | more hn _ ih => exact .number hn hcomma ih

theorem Infinity.lexemes {w : Text} {words : List Text} (hi : Infinity w) (h : Lexemes words) :
    Lexemes (w :: words) := by
  obtain ⟨kind, _, hlexeme⟩ := lexeme_of_infinity hi
  refine .other hlexeme ?_ h
  rintro rfl
  obtain ⟨n, hn⟩ := hlexeme.exists_number
  exact hn.not_infinity hi

theorem Lexemes.symbol {c : Char} {kind : TokenKind} {words : List Text}
    (hc : symbol? c = some kind) (h : Lexemes words) : Lexemes ([c] :: words) := by
  refine .other (.symbol hc) ?_ h
  rintro rfl
  exact symbol?_ne_number hc

theorem exists_symbol_of_bracket {c : Char} (h : c = '[' ∨ c = ']') :
    ∃ kind, symbol? c = some kind := by
  rcases h with rfl | rfl
  · exact ⟨.openBracket, rfl⟩
  · exact ⟨.closeBracket, rfl⟩

/-- The words of an interval stay apart however they are laid out. -/
theorem Words.lexemes {words : List Text} {interval : Interval} (h : Words words interval) :
    Lexemes words := by
  have hbrace : symbol? '{' = some .openBrace := rfl
  have hcomma : symbol? ',' = some .comma := rfl
  cases h with
  | set hset => exact hset.lexemes.symbol hbrace
  | @range left right lowWord highWord low high hleft hlow hhigh hright =>
    obtain ⟨_, hl⟩ := exists_symbol_of_bracket hleft
    obtain ⟨_, hr⟩ := exists_symbol_of_bracket hright
    have hend : Lexemes [highWord, [right]] := by
      cases hhigh with
      | number hn => exact .number hn hr .nil
      | negInf => exact Infinity.minus.lexemes (Lexemes.nil.symbol hr)
      | posInf hi _ => exact hi.lexemes (Lexemes.nil.symbol hr)
    refine Lexemes.symbol hl ?_
    cases hlow with
    | number hn => exact .number hn hcomma hend
    | infinity hi => exact hi.lexemes (hend.symbol hcomma)

theorem Lexemes.solid {words : List Text} (h : Lexemes words) : ∀ w ∈ words, Solid w := by
  induction h with
  | nil => simp
  | other hw _ _ ih =>
    intro v hv
    rcases List.mem_cons.mp hv with rfl | hv
    · exact hw.solid
    · exact ih v hv
  | number hn hc _ ih =>
    intro v hv
    rcases List.mem_cons.mp hv with rfl | hv
    · exact hn.solid
    · rcases List.mem_cons.mp hv with rfl | hv
      · exact (Lexeme.symbol hc).solid
      · exact ih v hv

theorem Words.ne_nil {words : List Text} {interval : Interval} (h : Words words interval) :
    words ≠ [] := by
  cases h <;> simp

/-- The tokens of a text that spells words are these words. -/
theorem lex_of_spells {t : Text} {words : List Text} (hwords : Lexemes words)
    (h : Spells words t) :
    (lex t).tokens.map Token.text = words ∧ (lex t).ending = .endOfText t.length := by
  have hdone : Scan (0 + t.length) [] ⟨[], .endOfText (0 + t.length + 0)⟩ := .done allBlank_nil
  obtain ⟨tokens, htokens, hscan⟩ := h.scan hwords hdone
  rw [List.append_nil] at hscan
  have hlex : ⟨tokens ++ [], .endOfText (0 + t.length + 0)⟩ = lex t := scan_iff.mp hscan
  rw [← hlex]
  simp [htokens]

/-! ## Parsing -/

theorem ofAllTokens_eq_ok {lexed : Lexed} {interval : Interval} :
    ofAllTokens lexed = .ok interval ↔
      ∃ stop length, ofTokens lexed = .ok ⟨interval, stop, []⟩ ∧
        lexed.ending = .endOfText length := by
  constructor
  · intro h
    obtain ⟨⟨read, stop, rest⟩, hread, hrest⟩ := bind_eq_ok.mp h
    split at hrest
    · cases hrest
    · cases hrest
    · rename_i length hnil hend
      cases hrest
      subst hnil
      exact ⟨stop, length, hread, hend⟩
  · rintro ⟨stop, length, hread, hend⟩
    refine bind_eq_ok.mpr ⟨_, hread, ?_⟩
    simp only [hend]

theorem ofTokens_of_ofAllTokens_integer {lexed : Lexed} {e : Numeral.IntegerError}
    (h : ofAllTokens lexed = .error (.integer e)) : ofTokens lexed = .error (.integer e) := by
  rcases bind_eq_error.mp h with hread | ⟨parsed, _, hrest⟩
  · exact hread
  · split at hrest <;> cases hrest

/-- An interval that is read is the one that the text denotes. -/
theorem parse_sound {t : Text} {interval : Interval} (h : parse t = .ok interval) :
    Denotes t interval := by
  obtain ⟨stop, length, hread, hend⟩ := ofAllTokens_eq_ok.mp (mapError_eq_ok.mp h)
  have hscan := scan_lex (trim t)
  obtain ⟨used, last, htokens, _, hwords, _⟩ :=
    ofTokens_sound (fun token htoken => (hscan.lexemes token htoken).1) hread
  refine Denotes.of_trim ⟨(lex (trim t)).tokens.map Token.text, hscan.spells hend, ?_⟩
  rw [htokens]
  exact hwords

/-- A text that spells legible words of an interval is read as this interval. -/
theorem parse_of_spells {t : Text} {words : List Text} {interval : Interval}
    (hspells : Spells words t) (hwords : Words words interval)
    (hlegible : ∀ w ∈ words, Legible w) : parse t = .ok interval := by
  obtain ⟨htokens, hend⟩ := lex_of_spells hwords.lexemes (hspells.trim hwords.lexemes.solid)
  have hne : (lex (trim t)).tokens ≠ [] := by
    intro hnil
    rw [hnil] at htokens
    exact hwords.ne_nil htokens.symm
  obtain ⟨used, last, hlast⟩ : ∃ used last, (lex (trim t)).tokens = used ++ [last] :=
    ⟨_, _, (List.dropLast_concat_getLast hne).symm⟩
  have hlexemes := (scan_lex (trim t)).lexemes
  rw [hlast] at htokens hlexemes
  have hread : ofTokens (lex (trim t)) = .ok ⟨interval, last.stop, []⟩ :=
    ofTokens_complete hlast (fun token ht => (hlexemes token ht).1)
      (fun token ht => hlegible _ (htokens ▸ List.mem_map_of_mem ht)) (htokens.symm ▸ hwords)
  exact mapError_eq_ok.mpr (ofAllTokens_eq_ok.mpr ⟨_, _, hread, hend⟩)

/-- A text that denotes an interval is read as this interval, if its numbers are not too long. -/
theorem parse_complete {t : Text} {interval : Interval}
    (hruns : DigitRunsWithin Numeral.digitLimit t) (h : Denotes t interval) :
    parse t = .ok interval := by
  obtain ⟨words, hspells, hwords⟩ := h
  exact parse_of_spells hspells hwords fun w hw => (hruns.of_part (hspells.part w hw)).legible

/-- Reading from the tokens of a text fails for another reason than a defect of the notation only at
a run of too many digits. -/
theorem overlong_of_ofTokens {t : Text} {e : Numeral.IntegerError}
    (h : ofTokens (lex t) = .error (.integer e)) : Overlong t e := by
  have hlexemes := (scan_lex t).lexemes
  obtain ⟨token, htoken, hkind, he⟩ :=
    number_of_ofTokens_integer (fun token ht => (hlexemes token ht).1) h
  obtain ⟨hlexeme, hpart⟩ := hlexemes token htoken
  obtain ⟨n, hn⟩ := (hkind ▸ hlexeme).exists_number
  exact (hn.overlong he).of_part hpart

theorem overlong_of_parse {t : Text} {e : Numeral.IntegerError}
    (h : parse t = .error (.integer e)) : Overlong t e := by
  obtain ⟨fault, hfault, hcause⟩ := mapError_eq_error.mp h
  cases fault with
  | malformed defect => cases hcause
  | integer cause =>
    cases hcause
    exact (overlong_of_ofTokens (ofTokens_of_ofAllTokens_integer hfault)).of_part (trim_isInfix t)

theorem malformed_of_parse {t : Text} {e : ParseError}
    (hruns : DigitRunsWithin Numeral.digitLimit t) (h : parse t = .error e) :
    ∃ defect, e = .malformed (trim t) defect := by
  obtain ⟨fault, _, rfl⟩ := mapError_eq_error.mp h
  cases fault with
  | malformed defect => exact ⟨defect, rfl⟩
  | integer cause => exact absurd (overlong_of_parse h) hruns.not_overlong

/-- **The parser and the notation agree.** A text without overlong runs of digits is read as an
interval exactly if it denotes this interval, and any other such text is reported as malformed. -/
theorem parse_agrees_with_grammar (t : Text) (hruns : DigitRunsWithin Numeral.digitLimit t) :
    (∀ interval, parse t = .ok interval ↔ Denotes t interval) ∧
      ((¬ ∃ interval, Denotes t interval) →
        ∃ defect, parse t = .error (.malformed (trim t) defect)) := by
  refine ⟨fun interval => ⟨parse_sound, parse_complete hruns⟩, fun hnone => ?_⟩
  cases h : parse t with
  | ok interval => exact absurd ⟨interval, parse_sound h⟩ hnone
  | error e =>
    obtain ⟨defect, rfl⟩ := malformed_of_parse hruns h
    exact ⟨defect, rfl⟩

/-- A set with white space in it, a number written twice and a fraction. -/
theorem denotes_padded_set :
    DigitRunsWithin Numeral.digitLimit " {1 ,-2.5,1}\t".toList ∧
      Denotes " {1 ,-2.5,1}\t".toList (.set [1, -2, 1]) := by
  have hruns : DigitRunsWithin Numeral.digitLimit " {1 ,-2.5,1}\t".toList :=
    digitRunsWithin_of_length (by decide)
  exact ⟨hruns, ((parse_agrees_with_grammar _ hruns).1 _).mp rfl⟩

end Interval
end Phrasebook
