import Phrasebook.Proofs.Interval.Scan

/-!
# Phrasebook.Proofs.Interval.Layout

Where the tokens lie in a text. From the position where reading starts up to the one where it stops,
every character belongs to a token or is white space.

* `LaidOut`: tokens that fill a stretch of a text in this way. Stretches can be joined
  (`LaidOut.append`), and a scan is a row of them (`Scan.laidOut`).
* `lexeme?_of_isPrefix`: a token takes all that any lexeme at its place could take. So where reading
  stops short of the end, no lexeme starts.
* `exists_scan_joinWith`: lexemes with single spaces between them are found again.

`lexFrom_laidOut` says all this of the tokens of a text from any position on.
-/

namespace Phrasebook
namespace Interval

open Unicode Text

/-- The position where the tokens end. -/
def Ending.stop : Ending → Nat
  | .endOfText length => length
  | .stray position _ => position

/-- A token without its place. -/
def Token.spelling (token : Token) : TokenKind × Text :=
  (token.kind, token.text)

/-- The token is what the text has between its positions, and no lexeme there is longer, or of
another kind. -/
structure Token.LiesIn (t : Text) (token : Token) : Prop where
  text_ne_nil : token.text ≠ []
  extract_eq : t.extract token.start token.stop = token.text
  longest : ∀ kind w, Lexeme kind w → w <+: t.drop token.start → kind = token.kind ∧ w <+: token.text

/-- The tokens fill the text from `start` to `stop`, but for white space. -/
structure LaidOut (t : Text) (start stop : Nat) (tokens : List Token) : Prop where
  start_le_stop : start ≤ stop
  within : ∀ token ∈ tokens, start ≤ token.start ∧ token.stop ≤ stop
  ordered : tokens.Pairwise fun a b => a.start < b.start ∧ a.stop ≤ b.start
  liesIn : ∀ token ∈ tokens, token.LiesIn t
  isBlank_of_outside : ∀ i c, start ≤ i → i < stop → t[i]? = some c →
    (∀ token ∈ tokens, ¬ (token.start ≤ i ∧ i < token.stop)) → isBlank c = true

/-- Reading stops at the end of the text, or at a character that is not blank and where no lexeme
starts. -/
def StopsAt (t : Text) : Ending → Prop
  | .endOfText length => length = t.length
  | .stray position c => t[position]? = some c ∧ isBlank c = false ∧
      ∀ kind w, Lexeme kind w → ¬ w <+: t.drop position

/-! ## The longest lexeme -/

theorem unsignedLexeme?_of_isPrefix {d f t : Text} (hd : Digits d) (hf : Fraction f)
    (h : d ++ f <+: t) : ∃ w, unsignedLexeme? t = some w ∧ d ++ f <+: w := by
  obtain ⟨rest, rfl⟩ := h
  cases hf with
  | none =>
    have htake : (d ++ rest).takeWhile isAsciiDigit = d ++ rest.takeWhile isAsciiDigit :=
      List.takeWhile_append_of_pos hd.2
    have hne : d ++ rest.takeWhile isAsciiDigit ≠ [] := by simp [hd.1]
    refine ⟨d ++ rest.takeWhile isAsciiDigit ++
      fractionLexeme ((d ++ rest).dropWhile isAsciiDigit), ?_, ?_⟩
    · simp only [List.append_nil, unsignedLexeme?, htake]
    · rw [List.append_nil, List.append_assoc]
      exact List.prefix_append d _
  | @digits e he =>
    have hpoint : ∀ c, ('.' :: (e ++ rest)).head? = some c → isAsciiDigit c = false := by
      rintro c ⟨⟩
      rfl
    obtain ⟨htake, hdrop⟩ := takeWhile_digits hd.2 hpoint
    have htakeAfter : (e ++ rest).takeWhile isAsciiDigit = e ++ rest.takeWhile isAsciiDigit :=
      List.takeWhile_append_of_pos he.2
    have hne := hd.1
    have hneAfter : e ++ rest.takeWhile isAsciiDigit ≠ [] := by simp [he.1]
    have hfraction : fractionLexeme ('.' :: (e ++ rest)) =
        '.' :: (e ++ rest.takeWhile isAsciiDigit) := by
      simp only [fractionLexeme, htakeAfter]
    refine ⟨d ++ '.' :: (e ++ rest.takeWhile isAsciiDigit), ?_, ?_⟩
    · simp only [List.append_assoc, List.cons_append, unsignedLexeme?, htake, hdrop, hfraction]
    · exact ⟨rest.takeWhile isAsciiDigit, by simp⟩

theorem numberLexeme?_of_isPrefix {v t : Text} {n : Int} (hv : Number v n) (h : v <+: t) :
    ∃ w, numberLexeme? t = some w ∧ v <+: w := by
  cases hv with
  | positive hd hf =>
    obtain ⟨w, hw, hprefix⟩ := unsignedLexeme?_of_isPrefix hd hf h
    exact ⟨w, numberLexeme?_of_unsigned hw, hprefix⟩
  | @negative d f hd hf =>
    obtain ⟨rest, rfl⟩ := h
    obtain ⟨w, hw, hprefix⟩ :=
      unsignedLexeme?_of_isPrefix hd hf (List.prefix_append (d ++ f) rest)
    refine ⟨'-' :: w, ?_, List.cons_prefix_cons.mpr ⟨rfl, hprefix⟩⟩
    rw [List.cons_append, numberLexeme?, hw]
    rfl

/-- The token at the front of a text is the longest lexeme there, and of its kind. -/
theorem lexeme?_of_isPrefix {kind : TokenKind} {v t : Text} (hv : Lexeme kind v) (h : v <+: t) :
    ∃ w, lexeme? t = some (kind, w) ∧ v <+: w := by
  have whole : kind ≠ .number → ∃ w, lexeme? t = some (kind, w) ∧ v <+: w := by
    intro hkind
    obtain ⟨rest, rfl⟩ := h
    exact ⟨v, lexeme?_append hv fun hk => absurd hk hkind, List.prefix_refl v⟩
  cases hv with
  | number hn =>
    obtain ⟨w, hw, hprefix⟩ := numberLexeme?_of_isPrefix hn h
    exact ⟨w, by simp only [lexeme?, hw], hprefix⟩
  | infinity => exact whole (by simp)
  | symbol hc =>
    apply whole
    rintro rfl
    exact symbol?_ne_number hc

/-! ## Stretches of a text -/

section
variable {t : Text} {start middle stop : Nat}

theorem LaidOut.append {first later : List Token} (hfirst : LaidOut t start middle first)
    (hlater : LaidOut t middle stop later) : LaidOut t start stop (first ++ later) := by
  have hle := hfirst.start_le_stop
  have hle' := hlater.start_le_stop
  refine ⟨Nat.le_trans hle hle', ?_, ?_, ?_, ?_⟩
  · intro token htoken
    rcases List.mem_append.mp htoken with h | h
    · have := hfirst.within token h
      omega
    · have := hlater.within token h
      omega
  · refine List.pairwise_append.mpr ⟨hfirst.ordered, hlater.ordered, ?_⟩
    intro a ha b hb
    have hstop := (hfirst.within a ha).2
    have hstart := (hlater.within b hb).1
    have hpos := List.length_pos_iff.mpr (hfirst.liesIn a ha).text_ne_nil
    simp only [Token.stop] at hstop ⊢
    omega
  · exact List.forall_mem_append.mpr ⟨hfirst.liesIn, hlater.liesIn⟩
  · intro i c hi hi' hc houtside
    obtain ⟨houtFirst, houtLater⟩ := List.forall_mem_append.mp houtside
    by_cases hmiddle : i < middle
    · exact hfirst.isBlank_of_outside i c hi hmiddle hc houtFirst
    · exact hlater.isBlank_of_outside i c (Nat.le_of_not_lt hmiddle) hi' hc houtLater

theorem laidOut_gap (before : Text) {gap : Text} (after : Text) (hgap : AllBlank gap) :
    LaidOut (before ++ (gap ++ after)) before.length (before.length + gap.length) [] where
  start_le_stop := Nat.le_add_right _ _
  within := by simp
  ordered := .nil
  liesIn := by simp
  isBlank_of_outside := by
    intro i c hi hi' hc _
    rw [List.getElem?_append_right hi, List.getElem?_append_left (by omega)] at hc
    exact hgap c (List.mem_of_getElem? hc)

theorem laidOut_token (before : Text) {w after : Text} {kind : TokenKind}
    (hw : lexeme? (w ++ after) = some (kind, w)) :
    LaidOut (before ++ (w ++ after)) before.length (before.length + w.length)
      [⟨kind, w, before.length⟩] where
  start_le_stop := Nat.le_add_right _ _
  within := by simp [Token.stop]
  ordered := List.pairwise_singleton _ _
  liesIn := by
    intro token htoken
    rw [List.mem_singleton.mp htoken]
    refine ⟨(lexeme?_isPrefix hw).2, by simp [Token.stop, List.extract_eq_take_drop], ?_⟩
    intro other v hv hprefix
    rw [List.drop_left] at hprefix
    obtain ⟨longest, hlongest, hle⟩ := lexeme?_of_isPrefix hv hprefix
    rw [hw] at hlongest
    cases hlongest
    exact ⟨rfl, hle⟩
  isBlank_of_outside := by
    intro i c hi hi' _ houtside
    exact absurd ⟨hi, hi'⟩ (houtside _ List.mem_cons_self)

end

/-- A scan is a row of gaps and tokens. -/
theorem Scan.laidOut {position : Nat} {rest : Text} {lexed : Lexed} (h : Scan position rest lexed)
    {before : Text} (hbefore : before.length = position) :
    LaidOut (before ++ rest) position lexed.ending.stop lexed.tokens ∧
      StopsAt (before ++ rest) lexed.ending := by
  -- On the scan. The text in front of what is left grows by each gap and token.
  induction h generalizing before with
  | @done position gap hgap =>
    subst hbefore
    have hlaid := laidOut_gap before [] hgap
    rw [List.append_nil] at hlaid
    exact ⟨hlaid, List.length_append.symm⟩
  | @stray position gap rest c hgap hc hnone =>
    subst hbefore
    refine ⟨laidOut_gap before (c :: rest) hgap, ?_⟩
    rw [StopsAt, ← List.append_assoc, ← List.length_append, List.drop_left]
    refine ⟨by simp, hc, ?_⟩
    intro kind w hw hprefix
    obtain ⟨longest, hlongest, _⟩ := lexeme?_of_isPrefix hw hprefix
    rw [hnone] at hlongest
    cases hlongest
  | @token position gap w rest kind later hgap hw _ ih =>
    subst hbefore
    have htext : before ++ (gap ++ (w ++ rest)) = before ++ gap ++ (w ++ rest) := by simp
    have htext' : before ++ (gap ++ (w ++ rest)) = before ++ gap ++ w ++ rest := by simp
    have hfirst := laidOut_gap before (w ++ rest) hgap
    have htoken := laidOut_token (before ++ gap) hw
    obtain ⟨hlater, hstops⟩ := @ih (before ++ gap ++ w) (by simp [Nat.add_assoc])
    rw [List.length_append, ← htext] at htoken
    rw [← htext'] at hlater hstops
    exact ⟨hfirst.append (htoken.append hlater), hstops⟩

/-! ## Single spaces -/

theorem stops_space (rest : Text) : Stops (' ' :: rest) := by
  rintro c ⟨⟩
  decide

theorem exists_scan_joinWith {tokens : List Token}
    (h : ∀ token ∈ tokens, Lexeme token.kind token.text) (position : Nat) :
    ∃ again, Scan position (joinWith [' '] (tokens.map Token.text))
        ⟨again, .endOfText (position + (joinWith [' '] (tokens.map Token.text)).length)⟩ ∧
      again.map Token.spelling = tokens.map Token.spelling := by
  induction tokens generalizing position with
  | nil => exact ⟨[], .done allBlank_nil, rfl⟩
  | cons token tokens ih =>
    obtain ⟨htoken, hrest⟩ := List.forall_mem_cons.mp h
    cases tokens with
    | nil =>
      refine ⟨[⟨token.kind, token.text, position⟩], ?_, rfl⟩
      have hw : lexeme? (token.text ++ []) = some (token.kind, token.text) :=
        lexeme?_append htoken fun _ => stops_nil
      have hend : Scan (position + token.text.length) [] ⟨[], .endOfText _⟩ := .done allBlank_nil
      simpa [joinWith] using Scan.token allBlank_nil hw hend
    | cons next tokens =>
      obtain ⟨again, hscan, hspelling⟩ := ih hrest (position + token.text.length + 1)
      generalize hjoined : joinWith [' '] ((next :: tokens).map Token.text) = joined at hscan
      have htext : joinWith [' '] ((token :: next :: tokens).map Token.text) =
          token.text ++ ' ' :: joined := by
        rw [← hjoined]
        simp [joinWith]
      have hlength : position + (token.text ++ ' ' :: joined).length =
          position + token.text.length + 1 + joined.length := by
        rw [List.length_append, List.length_cons]
        omega
      have hw : lexeme? (token.text ++ ' ' :: joined) = some (token.kind, token.text) :=
        lexeme?_append htoken fun _ => stops_space joined
      have hspace : AllBlank [' '] := by decide
      rw [htext, hlength]
      refine ⟨⟨token.kind, token.text, position⟩ :: again, ?_, ?_⟩
      · exact .token allBlank_nil hw (hscan.blanks hspace)
      · rw [List.map_cons, List.map_cons, hspelling]
        rfl

/-- **Every character belongs to a token or is white space,** from the position where reading starts
to the one where it stops, and it stops no earlier than it must. The tokens come back, kinds and
texts, if their texts are written with single spaces between them. -/
theorem lexFrom_laidOut {start : Nat} {t : Text} (hstart : start ≤ t.length) :
    LaidOut t start (lexFrom start t).ending.stop (lexFrom start t).tokens ∧
      StopsAt t (lexFrom start t).ending ∧
      ∃ again, lex (joinWith [' '] ((lexFrom start t).tokens.map Token.text)) =
          ⟨again, .endOfText (joinWith [' '] ((lexFrom start t).tokens.map Token.text)).length⟩ ∧
        again.map Token.spelling = (lexFrom start t).tokens.map Token.spelling := by
  have hscan : Scan start (t.drop start) (lexFrom start t) := scan_iff.mpr rfl
  obtain ⟨hlaid, hstops⟩ := hscan.laidOut (List.length_take_of_le hstart)
  rw [List.take_append_drop] at hlaid hstops
  obtain ⟨again, hagain, hspelling⟩ :=
    exists_scan_joinWith (fun token htoken => (hscan.lexemes token htoken).1) 0
  rw [Nat.zero_add] at hagain
  exact ⟨hlaid, hstops, again, (scan_iff.mp hagain).symm, hspelling⟩

def pointedRange : Text := "see [ -0.5,Inf .5".toList

/-- After a word that is not read, the tokens reach up to a point that no digit precedes. -/
theorem lexFrom_pointedRange :
    4 ≤ pointedRange.length ∧
      LaidOut pointedRange 4 15
        [⟨.openBracket, "[".toList, 4⟩, ⟨.number, "-0.5".toList, 6⟩, ⟨.comma, ",".toList, 10⟩,
          ⟨.infinity, "Inf".toList, 11⟩] ∧
      StopsAt pointedRange (.stray 15 '.') ∧
      (lex "[ -0.5 , Inf".toList).tokens.map Token.spelling =
        [(.openBracket, "[".toList), (.number, "-0.5".toList), (.comma, ",".toList),
          (.infinity, "Inf".toList)] := by
  have hstart : 4 ≤ pointedRange.length := by decide
  have hlex : lexFrom 4 pointedRange =
      ⟨[⟨.openBracket, "[".toList, 4⟩, ⟨.number, "-0.5".toList, 6⟩, ⟨.comma, ",".toList, 10⟩,
        ⟨.infinity, "Inf".toList, 11⟩], .stray 15 '.'⟩ := by decide
  obtain ⟨hlaid, hstops, again, hagain, hspelling⟩ := lexFrom_laidOut hstart
  rw [hlex] at hlaid hstops hagain hspelling
  refine ⟨hstart, hlaid, hstops, ?_⟩
  have hjoined : lex "[ -0.5 , Inf".toList = ⟨again, .endOfText 12⟩ := hagain
  rw [hjoined]
  exact hspelling

end Interval
end Phrasebook
