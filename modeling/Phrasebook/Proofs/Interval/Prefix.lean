import Phrasebook.Proofs.Interval.Parsing

/-!
# Phrasebook.Proofs.Interval.Prefix

Reading an interval at the front of a text, against reading a whole text.

* `lexeme?_append_symbol`: a symbol ends the lexeme before it, so it cuts the scan of a text in two
  (`Scan.before_symbol`, `Scan.append_symbol`).
* `ofTokens_used`: the tokens after an interval are not looked at.
* `exists_closing_sign`: an interval that is read ends at a closing sign, and it is read alike
  whatever follows this sign.

`parsePrefix?_agrees_with_parse` says what this means for the two readers.
-/

namespace Phrasebook
namespace Interval

open Unicode Text

/-! ## A symbol ends a lexeme -/

theorem infinityLexeme?_eq_some_iff {t w : Text} :
    infinityLexeme? t = some w ↔ (Infinity w ∧ w ≠ ['*']) ∧ w <+: t := by
  constructor
  · intro h
    exact ⟨infinityLexeme?_sound h, (infinityLexeme?_isPrefix h).1⟩
  · rintro ⟨⟨hw, hstar⟩, rest, rfl⟩
    cases hw with
    | minus => rfl
    | plus => rfl
    | unsigned => rfl
    | star => exact absurd rfl hstar

theorem prefix_append_cons_iff {c : Char} {w : Text} (hc : c ∉ w) (s rest : Text) :
    w <+: s ++ c :: rest ↔ w <+: s := by
  constructor
  · intro h
    rcases List.prefix_or_prefix_of_prefix h (List.prefix_append s (c :: rest)) with h' | ⟨u, rfl⟩
    · exact h'
    · cases u with
      | nil => simp
      | cons d u =>
        rw [List.prefix_append_right_inj, List.cons_prefix_cons] at h
        simp [h.1] at hc
  · intro h
    exact h.trans (List.prefix_append s (c :: rest))

section Symbol

variable {c : Char} {kind : TokenKind} (hc : symbol? c = some kind)

include hc

theorem takeWhile_append_symbol (s rest : Text) :
    (s ++ c :: rest).takeWhile isAsciiDigit = s.takeWhile isAsciiDigit := by
  have hdigit := (stops_of_symbol? hc).1
  induction s with
  | nil => simp [hdigit]
  | cons d s ih => simp only [List.cons_append, List.takeWhile_cons, ih]

theorem dropWhile_append_symbol (s rest : Text) :
    (s ++ c :: rest).dropWhile isAsciiDigit = s.dropWhile isAsciiDigit ++ c :: rest := by
  have hdigit := (stops_of_symbol? hc).1
  induction s with
  | nil => simp [hdigit]
  | cons d s ih =>
    simp only [List.cons_append, List.dropWhile_cons, ih]
    split <;> rfl

theorem fractionLexeme_append_symbol (s rest : Text) :
    fractionLexeme (s ++ c :: rest) = fractionLexeme s := by
  cases s with
  | nil =>
    have hpoint := (stops_of_symbol? hc).2
    simp [fractionLexeme, hpoint]
  | cons d s =>
    by_cases hd : d = '.'
    · simp [fractionLexeme, hd, takeWhile_append_symbol hc]
    · simp [fractionLexeme, hd]

theorem unsignedLexeme?_append_symbol (s rest : Text) :
    unsignedLexeme? (s ++ c :: rest) = unsignedLexeme? s := by
  simp only [unsignedLexeme?, takeWhile_append_symbol hc, dropWhile_append_symbol hc,
    fractionLexeme_append_symbol hc]

theorem numberLexeme?_append_symbol (s rest : Text) :
    numberLexeme? (s ++ c :: rest) = numberLexeme? s := by
  have hunsigned := unsignedLexeme?_append_symbol hc
  cases s with
  | nil =>
    have hminus : c ≠ '-' := by
      rintro rfl
      cases hc
    simpa [numberLexeme?, hminus] using hunsigned [] rest
  | cons d s =>
    by_cases hd : d = '-'
    · simp [numberLexeme?, hd, hunsigned s rest]
    · simpa [numberLexeme?, hd] using hunsigned (d :: s) rest

theorem infinityLexeme?_append_symbol (s rest : Text) :
    infinityLexeme? (s ++ c :: rest) = infinityLexeme? s := by
  apply Option.ext
  intro w
  simp only [infinityLexeme?_eq_some_iff]
  apply and_congr_right
  rintro ⟨hw, hstar⟩
  have hnone : ∀ d ∈ w, symbol? d = none := by
    cases hw with
    | minus => simp [symbol?]
    | plus => simp [symbol?]
    | unsigned => simp [symbol?]
    | star => exact absurd rfl hstar
  have hmem : c ∉ w := by
    intro hmem
    rw [hnone c hmem] at hc
    cases hc
  exact prefix_append_cons_iff hmem s rest

/-- A lexeme does not reach beyond a symbol, and does not depend on what follows it. -/
theorem lexeme?_append_symbol {s : Text} (hs : s ≠ []) (rest : Text) :
    lexeme? (s ++ c :: rest) = lexeme? s := by
  simp only [lexeme?, numberLexeme?_append_symbol hc, infinityLexeme?_append_symbol hc]
  cases s with
  | nil => exact absurd rfl hs
  | cons d s => rfl

end Symbol

/-! ## A symbol cuts a scan -/

/-- The text before a symbol is scanned for itself, and so is the text after it. -/
theorem Scan.before_symbol {position : Nat} {t : Text} {lexed : Lexed} (h : Scan position t lexed)
    {used after : List Token} {last : Token} (htokens : lexed.tokens = used ++ last :: after)
    {c : Char} {kind : TokenKind} (hlast : last.text = [c]) (hc : symbol? c = some kind) :
    ∃ s rest, t = s ++ c :: rest ∧ last.start = position + s.length ∧
      Scan position s ⟨used, .endOfText last.start⟩ ∧
      Scan (last.start + 1) rest ⟨after, lexed.ending⟩ := by
  induction h generalizing used with
  | done => simp at htokens
  | stray => simp at htokens
  | @token position gap w rest wKind later hgap hw hlater ih =>
    -- the symbol is the token in front or a later one
    cases used with
    | nil =>
      simp only [List.nil_append, List.cons.injEq] at htokens
      obtain ⟨rfl, rfl⟩ := htokens
      simp only at hlast
      subst hlast
      exact ⟨gap, rest, rfl, rfl, .done hgap, hlater⟩
    | cons first used =>
      simp only [List.cons_append, List.cons.injEq] at htokens
      obtain ⟨rfl, hused⟩ := htokens
      obtain ⟨s, rest, rfl, hstart, hscan, hrest⟩ := ih hused
      have hne : w ++ s ≠ [] := by simp [(lexeme?_isPrefix hw).2]
      rw [← List.append_assoc, lexeme?_append_symbol hc hne] at hw
      refine ⟨gap ++ (w ++ s), rest, by simp, ?_, .token hgap hw hscan, hrest⟩
      simp only [List.length_append, hstart]
      omega

theorem Scan.append_symbol {position stop : Nat} {s rest : Text} {used : List Token} {later : Lexed}
    {c : Char} {kind : TokenKind} (h : Scan position s ⟨used, .endOfText stop⟩)
    (hc : symbol? c = some kind) (hrest : Scan (stop + 1) rest later) :
    Scan position (s ++ c :: rest) ⟨used ++ ⟨kind, [c], stop⟩ :: later.tokens, later.ending⟩ := by
  generalize hlexed : (⟨used, .endOfText stop⟩ : Lexed) = lexed at h
  induction h generalizing used with
  | done hgap =>
    cases hlexed
    have hsymbol : lexeme? ([c] ++ rest) = some (kind, [c]) :=
      lexeme?_append (.symbol hc) fun hk => absurd (hk ▸ hc) symbol?_ne_number
    exact .token hgap hsymbol hrest
  | stray => cases hlexed
  | @token position gap w tail wKind before hgap hw _ ih =>
    obtain ⟨tokens, ending⟩ := before
    cases hlexed
    have hne : w ++ tail ≠ [] := by simp [(lexeme?_isPrefix hw).2]
    have hw' : lexeme? (w ++ (tail ++ c :: rest)) = some (wKind, w) := by
      rw [← List.append_assoc, lexeme?_append_symbol hc hne, hw]
    rw [List.append_assoc, List.append_assoc]
    exact .token hgap hw' (ih rfl)

/-! ## The reader stops at the end of an interval -/

theorem setNumbers_used {ending : Ending} {tokens after : List Token} {values : List Int}
    {stop : Nat} (h : setNumbers ending tokens = .ok (values, stop, after)) :
    ∃ used, tokens = used ++ after ∧ ∀ other ending',
      setNumbers ending' (used ++ other) = .ok (values, stop, other) := by
  fun_induction setNumbers ending tokens generalizing values with
  | case1 => cases h
  | case2 token =>
    obtain ⟨_, _, hend⟩ := bind_eq_ok.mp h
    cases hend
  | case3 token mark rest ih =>
    obtain ⟨n, hnumber, hmark⟩ := bind_eq_ok.mp h
    split at hmark
    · rename_i hcomma
      obtain ⟨⟨values, stop, after⟩, hrest, hok⟩ := bind_eq_ok.mp hmark
      cases hok
      obtain ⟨used, rfl, hused⟩ := ih hrest
      refine ⟨token :: mark :: used, rfl, fun other ending' => ?_⟩
      simp only [List.cons_append, setNumbers, hnumber, hcomma, hused]
      rfl
    · rename_i hbrace
      cases hmark
      refine ⟨[token, mark], rfl, fun other ending' => ?_⟩
      simp only [List.cons_append, List.nil_append, setNumbers, hnumber, hbrace]
      rfl
    · cases hmark

theorem rangeAfter_used {left : Token} {ending : Ending} {tokens : List Token} {parsed : Parsed}
    (h : rangeAfter left ending tokens = .ok parsed) :
    ∃ used, tokens = used ++ parsed.rest ∧ ∀ other ending',
      rangeAfter left ending' (used ++ other) = .ok ⟨parsed.interval, parsed.stop, other⟩ := by
  obtain ⟨lowToken, comma, highToken, right, after, low, high, rfl, hlowKind, hlow, hcomma,
    hhighKind, hhigh, hright, rfl⟩ := rangeAfter_eq_ok.mp h
  refine ⟨[lowToken, comma, highToken, right], rfl, fun other ending' => ?_⟩
  exact rangeAfter_eq_ok.mpr ⟨lowToken, comma, highToken, right, other, low, high, rfl, hlowKind,
    hlow, hcomma, hhighKind, hhigh, hright, rfl⟩

theorem ofTokens_used {lexed : Lexed} {parsed : Parsed} (h : ofTokens lexed = .ok parsed) :
    ∃ used, lexed.tokens = used ++ parsed.rest ∧ ∀ other ending,
      ofTokens ⟨used ++ other, ending⟩ = .ok ⟨parsed.interval, parsed.stop, other⟩ := by
  unfold ofTokens at h
  split at h
  · split at h <;> cases h
  · rename_i first rest hfirst
    rw [hfirst]
    split at h
    · rename_i hbrace
      obtain ⟨⟨values, stop, after⟩, hset, hok⟩ := bind_eq_ok.mp h
      cases hok
      obtain ⟨used, rfl, hused⟩ := setNumbers_used hset
      refine ⟨first :: used, rfl, fun other ending => ?_⟩
      simp only [ofTokens, List.cons_append, hbrace, hused]
      rfl
    · rename_i hopen
      obtain ⟨used, rfl, hused⟩ := rangeAfter_used h
      refine ⟨first :: used, rfl, fun other ending => ?_⟩
      simp only [ofTokens, List.cons_append, hopen, hused]
    · rename_i hclose
      obtain ⟨used, rfl, hused⟩ := rangeAfter_used h
      refine ⟨first :: used, rfl, fun other ending => ?_⟩
      simp only [ofTokens, List.cons_append, hclose, hused]
    · cases h

/-! ## Where an interval ends -/

/-- The signs that an interval may end with. -/
def closesInterval (c : Char) : Bool :=
  c = '}' || c = '[' || c = ']'

theorem exists_symbol_of_closesInterval {c : Char} (h : closesInterval c = true) :
    ∃ kind, symbol? c = some kind := by
  simp only [closesInterval, Bool.or_eq_true, decide_eq_true_eq] at h
  rcases h with (rfl | rfl) | rfl <;> exact ⟨_, rfl⟩

theorem SetWords.exists_last {words : List Text} {values : List Int} (h : SetWords words values) :
    ∃ body, words = body ++ [['}']] := by
  induction h with
  | @last w n hn => exact ⟨[w], rfl⟩
  | @more w n words values hn _ ih =>
    obtain ⟨body, rfl⟩ := ih
    exact ⟨w :: [','] :: body, rfl⟩

theorem Words.exists_last {words : List Text} {interval : Interval} (h : Words words interval) :
    ∃ body c, words = body ++ [[c]] ∧ closesInterval c = true := by
  cases h with
  | set hset =>
    obtain ⟨body, rfl⟩ := hset.exists_last
    exact ⟨['{'] :: body, '}', rfl, rfl⟩
  | @range left right lowWord highWord low high _ _ _ hright =>
    refine ⟨[[left], lowWord, [','], highWord], right, rfl, ?_⟩
    rcases hright with rfl | rfl <;> rfl

/-- An interval that is read ends at a closing sign. What follows the sign is scanned for itself,
and before any other text the same interval is read. -/
theorem exists_closing_sign {t : Text} {parsed : Parsed} (h : ofTokens (lex t) = .ok parsed) :
    ∃ s c rest, t = s ++ c :: rest ∧ closesInterval c = true ∧ parsed.stop = s.length + 1 ∧
      Scan parsed.stop rest ⟨parsed.rest, (lex t).ending⟩ ∧ ∀ other later,
        Scan parsed.stop other later →
          ofTokens (lex (s ++ c :: other)) = .ok ⟨parsed.interval, parsed.stop, later.tokens⟩ ∧
            (lex (s ++ c :: other)).ending = later.ending := by
  have hlexemes := (scan_lex t).lexemes
  obtain ⟨used, last, htokens, hstop, hwords, _⟩ :=
    ofTokens_sound (fun token htoken => (hlexemes token htoken).1) h
  obtain ⟨body, c, hbody, hclose⟩ := hwords.exists_last
  obtain ⟨kind, hc⟩ := exists_symbol_of_closesInterval hclose
  rw [List.map_append, List.map_singleton] at hbody
  have hlast : last.text = [c] := by simpa using (List.append_inj' hbody rfl).2
  have hkind : last.kind = kind :=
    (hlast ▸ (hlexemes last (by simp [htokens])).1).kind_eq (.symbol hc)
  obtain ⟨s, rest, ht, hstart, hbefore, hafter⟩ := (scan_lex t).before_symbol htokens hlast hc
  have hnext : parsed.stop = last.start + 1 := by rw [hstop, Token.stop, hlast]; rfl
  -- the tokens that the reader takes are those up to the closing sign
  obtain ⟨taken, htaken, hread⟩ := ofTokens_used h
  have hused : taken = used ++ [last] := by
    rw [htokens, List.append_cons] at htaken
    exact (List.append_cancel_right htaken).symm
  refine ⟨s, c, rest, ht, hclose, by omega, hnext ▸ hafter, fun other later hother => ?_⟩
  have hscan := hbefore.append_symbol hc (hnext ▸ hother)
  have htoken : (⟨kind, [c], last.start⟩ : Token) = last := by rw [← hkind, ← hlast]
  rw [htoken, scan_iff] at hscan
  have hlex : lex (s ++ c :: other) = ⟨used ++ last :: later.tokens, later.ending⟩ := hscan.symm
  have hother := hread later.tokens later.ending
  rw [hused, List.append_assoc] at hother
  rw [hlex]
  exact ⟨hother, rfl⟩

/-! ## The two readers -/

/-- The text ends with a sign that an interval may end with. -/
def EndsClosed (t : Text) : Prop :=
  ∃ c, t.getLast? = some c ∧ closesInterval c = true

/-- After blanks, the text consists of `head`, which by itself is the notation of the interval up to
its closing sign, and of `rest`. -/
structure StartsWith (t head rest : Text) (interval : Interval) : Prop where
  split : trimLeft t = head ++ rest
  closed : EndsClosed head
  parses : parse head = .ok interval

/-- A text whose first character opens no interval is malformed as one. -/
theorem exists_defect_of_not_opens {c : Char} (hc : isBlank c = false)
    (hopens : opensInterval c = false) (rest : Text) :
    ∃ defect, ofTokens (lex (c :: rest)) = .error (.malformed defect) := by
  simp only [lex, lexAfter, hc, Bool.false_eq_true, if_false]
  cases hl : lexeme? (c :: rest) with
  | none => exact ⟨_, rfl⟩
  | some found =>
    obtain ⟨kind, w⟩ := found
    -- the kinds that open an interval are those of its signs
    have hsign : ∀ d, symbol? d = some kind → opensInterval d = false := by
      intro d hd
      obtain ⟨tail, ht⟩ := (lexeme?_isPrefix hl).1
      rw [(lexeme?_sound hl).text_eq hd, List.singleton_append, List.cons.injEq] at ht
      rw [ht.1]
      exact hopens
    cases kind with
    | openBrace => exact absurd (hsign '{' rfl) (by decide)
    | openBracket => exact absurd (hsign '[' rfl) (by decide)
    | closeBracket => exact absurd (hsign ']' rfl) (by decide)
    | closeBrace => exact ⟨_, rfl⟩
    | comma => exact ⟨_, rfl⟩
    | number => exact ⟨_, rfl⟩
    | infinity => exact ⟨_, rfl⟩
    | star => exact ⟨_, rfl⟩

/-- The look at the first character only tells early that there is no interval. -/
theorem parsePrefix?_eq (t : Text) :
    parsePrefix? t =
      match ofTokens (lex (trimLeft t)) with
      | .ok parsed => .ok (some (parsed.interval, (trimLeft t).drop parsed.stop))
      | .error (.malformed _) => .ok none
      | .error (.integer e) => .error e := by
  unfold parsePrefix?
  cases ht : trimLeft t with
  | nil => rfl
  | cons c tail =>
    have hc : isBlank c = false := head?_trimLeft (t := t) (by rw [ht]; rfl)
    cases hopens : opensInterval c with
    | true =>
      cases hread : ofTokens (lex (c :: tail)) with
      | ok parsed => simp only [hopens, if_true, hread]
      | error fault => cases fault <;> simp only [hopens, if_true, hread]
    | false =>
      obtain ⟨defect, hdefect⟩ := exists_defect_of_not_opens hc hopens tail
      simp only [hopens, Bool.false_eq_true, if_false, hdefect]

theorem parsePrefix?_eq_some_iff {t rest : Text} {interval : Interval} :
    parsePrefix? t = .ok (some (interval, rest)) ↔
      ∃ parsed, ofTokens (lex (trimLeft t)) = .ok parsed ∧ interval = parsed.interval ∧
        rest = (trimLeft t).drop parsed.stop := by
  rw [parsePrefix?_eq]
  cases ofTokens (lex (trimLeft t)) with
  | ok parsed => simp [eq_comm]
  | error fault => cases fault <;> simp

theorem parsePrefix?_eq_error_iff {t : Text} {e : Numeral.IntegerError} :
    parsePrefix? t = .error e ↔ ofTokens (lex (trimLeft t)) = .error (.integer e) := by
  rw [parsePrefix?_eq]
  cases ofTokens (lex (trimLeft t)) with
  | ok parsed => simp
  | error fault => cases fault <;> simp

/-- A set whose first number has too many digits. -/
theorem parsePrefix?_overlongSet {d : Text} (hd : Digits d) (hlen : Numeral.digitLimit < d.length)
    (rest : Text) :
    parsePrefix? ('{' :: (d ++ '}' :: rest)) = .error (.tooManyDigits d.length) := by
  have hnumber : Number d (magnitude d) := by simpa using Number.positive hd .none
  have hbrace : lexeme? (['{'] ++ (d ++ '}' :: rest)) = some (.openBrace, ['{']) :=
    lexeme?_append (.symbol rfl) nofun
  have hdigits : lexeme? (d ++ '}' :: rest) = some (.number, d) :=
    lexeme?_append (.number hnumber) fun _ => stops_symbol allBlank_nil rfl
  have hsolid : StartsSolid ('{' :: (d ++ '}' :: rest)) := ⟨'{', _, rfl, by decide⟩
  have hread : ∀ start, setNumber ⟨.number, d, start⟩ =
      .error (.integer (.tooManyDigits d.length)) := by
    intro start
    simp only [setNumber, if_true, integerPart_overlong hd hlen]
    rfl
  rw [parsePrefix?_eq_error_iff, trimLeft_of_startsSolid hsolid, lex, ← List.singleton_append,
    lexAfter_lexeme hbrace, lexAfter_lexeme hdigits]
  exact bind_eq_error.mpr (.inl (setNumbers_of_error (hread _) _))

theorem trim_of_solid {t : Text} (h : Solid t) : trim t = t := by
  rw [trim, trimLeft_of_startsSolid h.1, trimRight, trimLeft_of_startsSolid h.2,
    List.reverse_reverse]

theorem isBlank_of_closesInterval {c : Char} (h : closesInterval c = true) : isBlank c = false := by
  obtain ⟨kind, hc⟩ := exists_symbol_of_closesInterval h
  exact isBlank_of_symbol? hc

theorem eq_nil_of_endsClosed {s gap : Text} {c : Char} (h : EndsClosed (s ++ c :: gap))
    (hgap : AllBlank gap) : gap = [] := by
  obtain ⟨d, hlast, hd⟩ := h
  cases hend : gap.getLast? with
  | none => exact List.getLast?_eq_none_iff.mp hend
  | some e =>
    simp only [List.getLast?_append, List.getLast?_cons, hend, Option.getD_some, Option.some_or,
      Option.some.injEq] at hlast
    have hblank := hgap e (List.mem_of_getLast? hend)
    rw [hlast, isBlank_of_closesInterval hd] at hblank
    cases hblank

theorem solid_of_split {t head rest : Text} (h : trimLeft t = head ++ rest)
    (hclosed : EndsClosed head) : Solid head := by
  obtain ⟨c, hlast, hclose⟩ := hclosed
  obtain ⟨body, rfl⟩ := List.getLast?_eq_some_iff.mp hlast
  constructor
  · obtain ⟨d, tail, hd⟩ := List.exists_cons_of_ne_nil (List.append_ne_nil_of_right_ne_nil body
      (List.cons_ne_nil c []))
    refine ⟨d, tail, hd, head?_trimLeft (t := t) ?_⟩
    rw [h, hd]
    rfl
  · exact ⟨c, body.reverse, by simp, isBlank_of_closesInterval hclose⟩

theorem parse_eq_ok_iff {t : Text} (ht : Solid t) {interval : Interval} :
    parse t = .ok interval ↔
      ∃ stop length, ofTokens (lex t) = .ok ⟨interval, stop, []⟩ ∧
        (lex t).ending = .endOfText length := by
  rw [parse, trim_of_solid ht, mapError_eq_ok, ofAllTokens_eq_ok]

theorem StartsWith.reads {t head rest : Text} {interval : Interval}
    (h : StartsWith t head rest interval) :
    parsePrefix? t = .ok (some (interval, rest)) := by
  obtain ⟨hsplit, hclosed, hparse⟩ := h
  obtain ⟨stop, length, hread, hend⟩ := (parse_eq_ok_iff (solid_of_split hsplit hclosed)).mp hparse
  obtain ⟨s, c, gap, rfl, hclose, hstop, hgap, hfollow⟩ := exists_closing_sign hread
  -- `head` ends at its closing sign, with nothing behind it
  have hnil : gap = [] := by
    cases hgap.spells hend with
    | nil hblank => exact eq_nil_of_endsClosed hclosed hblank
  subst hnil
  have hrest := (hfollow rest _ (scan_iff.mpr rfl)).1
  have ht : trimLeft t = s ++ c :: rest := by simpa using hsplit
  refine parsePrefix?_eq_some_iff.mpr ⟨_, by rw [ht]; exact hrest, rfl, ?_⟩
  rw [ht, hstop]
  simp

theorem exists_startsWith {t rest : Text} {interval : Interval}
    (h : parsePrefix? t = .ok (some (interval, rest))) :
    ∃ head, StartsWith t head rest interval := by
  obtain ⟨parsed, hread, rfl, rfl⟩ := parsePrefix?_eq_some_iff.mp h
  obtain ⟨s, c, rest, ht, hclose, hstop, _, hfollow⟩ := exists_closing_sign hread
  have hclosed : EndsClosed (s ++ [c]) := ⟨c, by simp, hclose⟩
  have hsplit : trimLeft t = (s ++ [c]) ++ (trimLeft t).drop parsed.stop := by
    simp [ht, hstop]
  obtain ⟨halone, hend⟩ := hfollow [] _ (.done allBlank_nil)
  refine ⟨s ++ [c], hsplit, hclosed, ?_⟩
  exact (parse_eq_ok_iff (solid_of_split hsplit hclosed)).mpr ⟨_, _, halone, hend⟩

/-- **The two readers agree.** An interval is read in front of a text exactly if the text, after
blanks, starts with something that by itself is parsed as this interval up to its closing sign. What
follows has no influence, and no text starts so in two ways. -/
theorem parsePrefix?_agrees_with_parse (t : Text) :
    (∀ interval rest, parsePrefix? t = .ok (some (interval, rest)) ↔
        ∃ head, StartsWith t head rest interval) ∧
      ∀ head other rest rest' interval interval', StartsWith t head rest interval →
        StartsWith t other rest' interval' → head = other := by
  refine ⟨fun interval rest => ⟨exists_startsWith, fun ⟨_, h⟩ => h.reads⟩, ?_⟩
  intro head other rest rest' interval interval' h h'
  have hsame := h.reads
  rw [h'.reads] at hsame
  cases hsame
  have hsplit := h.split
  rw [h'.split] at hsplit
  exact (List.append_cancel_right hsplit).symm

def countedRule : Text := "  [2, *] :count apples".toList

theorem parsePrefix?_countedRule :
    StartsWith countedRule "[2, *]".toList " :count apples".toList
        (.range (.int 2) .posInf true true) ∧
      ∃ head, StartsWith countedRule head " :count apples".toList
          (.range (.int 2) .posInf true true) ∧ head = "[2, *]".toList := by
  have hstarts : StartsWith countedRule "[2, *]".toList " :count apples".toList
      (.range (.int 2) .posInf true true) := ⟨rfl, ⟨']', rfl, rfl⟩, rfl⟩
  obtain ⟨hread, honly⟩ := parsePrefix?_agrees_with_parse countedRule
  obtain ⟨head, hhead⟩ := (hread _ _).mp rfl
  exact ⟨hstarts, head, hhead, honly _ _ _ _ _ _ hhead hstarts⟩

end Interval
end Phrasebook
