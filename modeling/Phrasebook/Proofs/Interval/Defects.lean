import Phrasebook.Proofs.Interval.Parsing

/-!
# Phrasebook.Proofs.Interval.Defects

Where a defect of the notation is found, and what is told about it.

* `Viable words`: the words are the start of words that are read as an interval.
* `ofAllTokens_defect`: the tokens before a defect are viable, and the defect is where the token
  after them starts, or where the tokens end.
* `Scan.spells_before`: the text up to there spells the tokens before it.

`parse_error_at_viable_prefix` puts them together, with the events that go with each outcome.
-/

namespace Phrasebook
namespace Interval

open Unicode Text

/-! ## Words that can be completed -/

/-- The words are the start of legible words of a language. -/
def StartsIn (language : List Text → Prop) (words : List Text) : Prop :=
  ∃ more, language (words ++ more) ∧ ∀ w ∈ words ++ more, Legible w

/-- The words of a set after its opening brace. -/
def IsSetRest (words : List Text) : Prop :=
  ∃ values, SetWords words values

def IsInterval (words : List Text) : Prop :=
  ∃ interval, Words words interval

/-- The words are the start of words that are read as an interval. -/
def Viable (words : List Text) : Prop :=
  StartsIn IsInterval words

theorem StartsIn.of_start {language : List Text → Prop} {words start : List Text}
    (h : StartsIn language words) (hstart : start <+: words) : StartsIn language start := by
  obtain ⟨more, rfl⟩ := hstart
  obtain ⟨rest, hwords, hlegible⟩ := h
  rw [List.append_assoc] at hwords hlegible
  exact ⟨more ++ rest, hwords, hlegible⟩

theorem startsIn_number {w : Text} {n : Int} (hn : Number w n) (hw : Legible w) :
    StartsIn IsSetRest [w] := by
  refine ⟨[['}']], ⟨_, .last hn⟩, ?_⟩
  have hbrace : Legible ['}'] := legible_symbol rfl
  simp [hw, hbrace]

theorem startsIn_nil : StartsIn IsSetRest [] := by
  have hzero : Legible (Numeral.decimal 0) := legible_decimal (by decide)
  exact (startsIn_number (number_decimal 0) hzero).of_start List.nil_prefix

theorem StartsIn.number_comma {w : Text} {n : Int} {words : List Text} (hn : Number w n)
    (hw : Legible w) (h : StartsIn IsSetRest words) : StartsIn IsSetRest (w :: [','] :: words) := by
  obtain ⟨rest, ⟨values, hvalues⟩, hlegible⟩ := h
  refine ⟨rest, ⟨_, .more hn hvalues⟩, ?_⟩
  intro v hv
  rcases List.mem_cons.mp hv with rfl | hv
  · exact hw
  rcases List.mem_cons.mp hv with rfl | hv
  · exact legible_symbol rfl
  · exact hlegible v hv

theorem StartsIn.viable {words : List Text} (h : StartsIn IsSetRest words) :
    Viable (['{'] :: words) := by
  obtain ⟨rest, ⟨values, hvalues⟩, hlegible⟩ := h
  refine ⟨rest, ⟨_, .set hvalues⟩, ?_⟩
  intro v hv
  rcases List.mem_cons.mp hv with rfl | hv
  · exact legible_symbol rfl
  · exact hlegible v hv

/-- The words of a range up to its right bracket. -/
theorem viable_range {left : Char} {lowWord highWord : Text} {low high : Bound}
    (hleft : left = '[' ∨ left = ']') (hlow : LowBound lowWord low) (hlowLegible : Legible lowWord)
    (hhigh : HighBound highWord high) (hhighLegible : Legible highWord) :
    Viable [[left], lowWord, [','], highWord] := by
  refine ⟨[[']']], ⟨_, .range hleft hlow hhigh (.inr rfl)⟩, ?_⟩
  have hcomma : Legible [','] := legible_symbol rfl
  simp [legible_bracket hleft, legible_bracket (.inr rfl), hlowLegible, hhighLegible, hcomma]

/-! ## The tokens before a defect -/

/-- Where the next token starts, or the tokens end. -/
def nextStart (ending : Ending) : List Token → Nat
  | [] => ending.defect.position
  | token :: _ => token.start

section Reader

variable {ending : Ending} {defect : Defect}

theorem position_of_take {kinds : List TokenKind} {tokens : List Token}
    (h : take kinds ending tokens = .error (.malformed defect)) :
    defect.position = nextStart ending tokens := by
  cases tokens with
  | nil => cases h; rfl
  | cons token rest =>
    simp only [take] at h
    split at h
    · cases h
    · cases h; rfl

theorem position_of_takeBound {tokens : List Token}
    (h : takeBound ending tokens = .error (.malformed defect)) :
    defect.position = nextStart ending tokens := by
  rcases bind_eq_error.mp h with htake | ⟨_, _, hread⟩
  · exact position_of_take htake
  · rcases bind_eq_error.mp hread with hbound | ⟨_, _, hok⟩
    · obtain ⟨_, _, hcause⟩ := mapError_eq_error.mp hbound
      cases hcause
    · cases hok

theorem position_of_setNumber {token : Token}
    (h : setNumber token = .error (.malformed defect)) : defect.position = token.start := by
  simp only [setNumber] at h
  split at h
  · obtain ⟨_, _, hcause⟩ := mapError_eq_error.mp h
    cases hcause
  · cases h; rfl

/-- What is read of a set before a defect. The numbers read so far start a set, by induction on
them. -/
theorem setNumbers_defect {tokens : List Token}
    (htokens : ∀ token ∈ tokens, Lexeme token.kind token.text)
    (h : setNumbers ending tokens = .error (.malformed defect)) :
    ∃ used rest, tokens = used ++ rest ∧ defect.position = nextStart ending rest ∧
      StartsIn IsSetRest (used.map Token.text) := by
  fun_induction setNumbers ending tokens with
  | case1 =>
    cases h
    exact ⟨[], [], rfl, rfl, startsIn_nil⟩
  | case2 token =>
    rcases bind_eq_error.mp h with hset | ⟨n, hset, hend⟩
    · exact ⟨[], [token], rfl, position_of_setNumber hset, startsIn_nil⟩
    · cases hend
      obtain ⟨hn, hlegible⟩ := number_of_setNumber (htokens token (by simp)) hset
      exact ⟨[token], [], rfl, rfl, startsIn_number hn hlegible⟩
  | case3 token mark rest ih =>
    rcases bind_eq_error.mp h with hset | ⟨n, hset, hmark⟩
    · exact ⟨[], token :: mark :: rest, rfl, position_of_setNumber hset, startsIn_nil⟩
    obtain ⟨hn, hlegible⟩ := number_of_setNumber (htokens token (by simp)) hset
    split at hmark
    · rename_i hcomma
      rcases bind_eq_error.mp hmark with hrest | ⟨_, _, hok⟩
      · obtain ⟨used, later, rfl, hposition, hused⟩ :=
          ih (fun t ht => htokens t (by simp [ht])) hrest
        have htext : mark.text = [','] := (hcomma ▸ htokens mark (by simp)).text_eq rfl
        refine ⟨token :: mark :: used, later, rfl, hposition, ?_⟩
        rw [List.map_cons, List.map_cons, htext]
        exact hused.number_comma hn hlegible
      · cases hok
    · cases hmark
    · cases hmark
      exact ⟨[token], mark :: rest, rfl, rfl, startsIn_number hn hlegible⟩

/-- What is read of a range before a defect. -/
theorem rangeAfter_defect {left : Token} {tokens : List Token}
    (htokens : ∀ token ∈ left :: tokens, Lexeme token.kind token.text)
    (hleft : left.kind = .openBracket ∨ left.kind = .closeBracket)
    (h : rangeAfter left ending tokens = .error (.malformed defect)) :
    ∃ used rest, tokens = used ++ rest ∧ defect.position = nextStart ending rest ∧
      Viable (left.text :: used.map Token.text) := by
  obtain ⟨c, hc, hsign⟩ := bracket_text (htokens left (by simp)) hleft
  rw [hc]
  have hstar : Legible ['*'] := legible_symbol rfl
  have hlowStar : LowBound ['*'] .negInf := .infinity .star
  have hhighStar : HighBound ['*'] .posInf := .posInf .star (by decide)
  rcases bind_eq_error.mp h with hlow | ⟨⟨low, tokens₁⟩, hlow, h₁⟩
  · have hviable := viable_range hsign hlowStar hstar hhighStar hstar
    exact ⟨[], tokens, rfl, position_of_takeBound hlow, hviable.of_start (by simp)⟩
  obtain ⟨lowToken, rfl, hlowKind, hlowRead⟩ := takeBound_eq_ok.mp hlow
  have hlowWord := (readBound_sound (htokens lowToken (by simp)) hlowKind hlowRead).1
  have hlowLegible := legible_of_readBound hlowRead
  have hviable := viable_range hsign hlowWord hlowLegible hhighStar hstar
  rcases bind_eq_error.mp h₁ with hcomma | ⟨⟨comma, tokens₂⟩, hcomma, h₂⟩
  · exact ⟨[lowToken], tokens₁, rfl, position_of_take hcomma,
      hviable.of_start (by simp)⟩
  obtain ⟨rfl, hcommaKind⟩ := take_eq_ok.mp hcomma
  have hcommaText : comma.text = [','] :=
    ((List.mem_singleton.mp hcommaKind) ▸ htokens comma (by simp)).text_eq rfl
  rcases bind_eq_error.mp h₂ with hhigh | ⟨⟨high, tokens₃⟩, hhigh, h₃⟩
  · refine ⟨[lowToken, comma], tokens₂, rfl, position_of_takeBound hhigh, ?_⟩
    rw [List.map_cons, List.map_singleton, hcommaText]
    exact hviable.of_start (by simp)
  obtain ⟨highToken, rfl, hhighKind, hhighRead⟩ := takeBound_eq_ok.mp hhigh
  have hhighWord := (readBound_sound (htokens highToken (by simp)) hhighKind hhighRead).2
  rcases bind_eq_error.mp h₃ with hright | ⟨_, _, hok⟩
  · refine ⟨[lowToken, comma, highToken], tokens₃, rfl, position_of_take hright, ?_⟩
    rw [List.map_cons, List.map_cons, List.map_singleton, hcommaText]
    exact viable_range hsign hlowWord hlowLegible hhighWord (legible_of_readBound hhighRead)
  · cases hok

theorem viable_nil : Viable [] :=
  startsIn_nil.viable.of_start List.nil_prefix

/-- The tokens before a defect. A text without tokens is the only one whose defect is reported at
its start. -/
theorem ofTokens_defect {lexed : Lexed}
    (htokens : ∀ token ∈ lexed.tokens, Lexeme token.kind token.text)
    (h : ofTokens lexed = .error (.malformed defect)) :
    ∃ used rest, lexed.tokens = used ++ rest ∧ Viable (used.map Token.text) ∧
      (defect.position = nextStart lexed.ending rest ∨ used = [] ∧ defect.position = 0) := by
  unfold ofTokens at h
  split at h
  · rename_i hnil
    rw [hnil]
    split at h
    · cases h
      exact ⟨[], [], rfl, viable_nil, .inr ⟨rfl, rfl⟩⟩
    · rename_i hend
      cases h
      exact ⟨[], [], rfl, viable_nil, .inl (by rw [hend]; rfl)⟩
  · rename_i first rest hfirst
    rw [hfirst] at htokens ⊢
    split at h
    · rename_i hbrace
      rcases bind_eq_error.mp h with hset | ⟨_, _, hok⟩
      · obtain ⟨used, later, rfl, hposition, hused⟩ :=
          setNumbers_defect (fun t ht => htokens t (by simp [ht])) hset
        have htext : first.text = ['{'] := (hbrace ▸ htokens first (by simp)).text_eq rfl
        refine ⟨first :: used, later, rfl, ?_, .inl hposition⟩
        rw [List.map_cons, htext]
        exact hused.viable
      · cases hok
    · rename_i hopen
      obtain ⟨used, later, rfl, hposition, hused⟩ := rangeAfter_defect htokens (.inl hopen) h
      exact ⟨first :: used, later, rfl, hused, .inl hposition⟩
    · rename_i hclose
      obtain ⟨used, later, rfl, hposition, hused⟩ := rangeAfter_defect htokens (.inr hclose) h
      exact ⟨first :: used, later, rfl, hused, .inl hposition⟩
    · cases h
      exact ⟨[], first :: rest, rfl, viable_nil, .inl rfl⟩

theorem ofAllTokens_defect {lexed : Lexed}
    (htokens : ∀ token ∈ lexed.tokens, Lexeme token.kind token.text)
    (h : ofAllTokens lexed = .error (.malformed defect)) :
    ∃ used rest, lexed.tokens = used ++ rest ∧ Viable (used.map Token.text) ∧
      (defect.position = nextStart lexed.ending rest ∨ used = [] ∧ defect.position = 0) := by
  rcases bind_eq_error.mp h with hread | ⟨parsed, hread, hrest⟩
  · exact ofTokens_defect htokens hread
  · -- something stands behind a whole interval
    obtain ⟨used, last, hused, _, hwords, hlegible⟩ := ofTokens_sound htokens hread
    have hviable : Viable ((used ++ [last]).map Token.text) := by
      refine ⟨[], ⟨_, by simpa using hwords⟩, ?_⟩
      rw [List.append_nil]
      intro w hw
      obtain ⟨token, htoken, rfl⟩ := List.mem_map.mp hw
      exact hlegible token htoken
    refine ⟨used ++ [last], parsed.rest, by simp [hused], hviable, .inl ?_⟩
    split at hrest
    · rename_i hnext
      cases hrest
      rw [hnext]
      rfl
    · rename_i hnext hend
      cases hrest
      rw [hnext, hend]
      rfl
    · cases hrest

end Reader

/-! ## The text before a defect -/

/-- The text up to where a token starts, or the tokens end, spells the tokens before. -/
theorem Scan.spells_before {position : Nat} {t : Text} {lexed : Lexed} (h : Scan position t lexed)
    {used rest : List Token} (htokens : lexed.tokens = used ++ rest) :
    ∃ n, n ≤ t.length ∧ nextStart lexed.ending rest = position + n ∧
      Spells (used.map Token.text) (t.take n) := by
  induction h generalizing used with
  | @done position gap hgap =>
    obtain ⟨rfl, rfl⟩ := List.nil_eq_append_iff.mp htokens
    exact ⟨gap.length, Nat.le_refl _, rfl, by simpa using Spells.nil hgap⟩
  | @stray position gap after c hgap hc hnone =>
    obtain ⟨rfl, rfl⟩ := List.nil_eq_append_iff.mp htokens
    exact ⟨gap.length, by simp, rfl, by simpa using Spells.nil hgap⟩
  | @token position gap w after kind later hgap hw hlater ih =>
    cases used with
    | nil =>
      rw [List.nil_append] at htokens
      subst htokens
      exact ⟨gap.length, by simp, rfl, by simpa using Spells.nil hgap⟩
    | cons first used =>
      simp only [List.cons_append, List.cons.injEq] at htokens
      obtain ⟨rfl, hused⟩ := htokens
      obtain ⟨n, hn, hnext, hspells⟩ := ih hused
      refine ⟨gap.length + (w.length + n), ?_, ?_, ?_⟩
      · simp only [List.length_append]
        omega
      · rw [hnext]
        omega
      · rw [List.take_length_add_append, List.take_length_add_append]
        exact .cons hgap hspells

/-- The text before a defect is the start of a text that is an interval. -/
theorem exists_completion {t : Text} {defect : Defect}
    (h : ofAllTokens (lex t) = .error (.malformed defect)) :
    defect.position ≤ t.length ∧
      ∃ tail interval, parse (t.take defect.position ++ tail) = .ok interval := by
  have hscan := scan_lex t
  obtain ⟨used, rest, htokens, ⟨more, ⟨interval, hwords⟩, hlegible⟩, hposition⟩ :=
    ofAllTokens_defect (fun token ht => (hscan.lexemes token ht).1) h
  have hbefore : defect.position ≤ t.length ∧
      Spells (used.map Token.text) (t.take defect.position) := by
    rcases hposition with hnext | ⟨rfl, hzero⟩
    · obtain ⟨n, hn, hstart, hspells⟩ := hscan.spells_before htokens
      rw [hnext, hstart, Nat.zero_add]
      exact ⟨hn, hspells⟩
    · rw [hzero]
      exact ⟨Nat.zero_le _, .nil allBlank_nil⟩
  refine ⟨hbefore.1, more.flatten, interval, ?_⟩
  exact parse_of_spells (hbefore.2.append (spells_flatten more)) hwords hlegible

/-! ## Reports -/

theorem parseLogged_result (t : Text) : (parseLogged t).result = parse t := by
  rw [parseLogged]
  cases parse t with
  | ok interval => rfl
  | error e => rfl

theorem ofAllTokens_of_parse {t s : Text} {defect : Defect}
    (h : parse t = .error (.malformed s defect)) :
    s = trim t ∧ ofAllTokens (lex (trim t)) = .error (.malformed defect) := by
  obtain ⟨fault, hfault, hcause⟩ := mapError_eq_error.mp h
  cases fault with
  | malformed found =>
    cases hcause
    exact ⟨rfl, hfault⟩
  | integer e => cases hcause

theorem tooManyDigits_of_parse {t : Text} {e : Numeral.IntegerError}
    (h : parse t = .error (.integer e)) : ∃ count, e = .tooManyDigits count := by
  obtain ⟨run, _, _, _, hcount⟩ := overlong_of_parse h
  exact ⟨run.length, hcount⟩

/-- **Defects are found behind a viable prefix and logged once.** If a text is refused as malformed,
the report names the trimmed text and a position in it; what stands before this position is the start
of a text that is parsed; and a single warning is logged, with the fields of the report. Nothing is
logged if the text is parsed, or if it has a number with too many digits, which is the only other
outcome. -/
theorem parse_error_at_viable_prefix (t : Text) :
    (parseLogged t).result = parse t ∧
      (∀ s defect, parse t = .error (.malformed s defect) →
        (defect.report s).interval = trim t ∧
          ∃ p : Nat, (defect.report s).position = some (p : Int) ∧ p ≤ (trim t).length ∧
            (∃ tail interval, parse ((trim t).take p ++ tail) = .ok interval) ∧
            ∃ event, (parseLogged t).events = [event] ∧ event.severity = .warning ∧
              event.name = "interval_parse_failed" ∧
              event.fields = [("interval", .text (trim t)), ("position", .size p),
                ("reason", .text (defect.report s).reason)]) ∧
      (∀ interval, parse t = .ok interval → (parseLogged t).events = []) ∧
      ∀ e, parse t = .error (.integer e) →
        (∃ count, e = .tooManyDigits count) ∧ (parseLogged t).events = [] := by
  refine ⟨parseLogged_result t, ?_, ?_, ?_⟩
  · intro s defect h
    obtain ⟨rfl, hdefect⟩ := ofAllTokens_of_parse h
    obtain ⟨hposition, hcompletion⟩ := exists_completion hdefect
    refine ⟨rfl, defect.position, rfl, hposition, hcompletion, ?_⟩
    refine ⟨.intervalParseFailed (trim t) defect.position defect.reason.text, ?_, rfl, rfl, rfl⟩
    rw [parseLogged, h]
    rfl
  · intro interval h
    rw [parseLogged, h]
  · intro e h
    refine ⟨tooManyDigits_of_parse h, ?_⟩
    rw [parseLogged, h]
    rfl

def brokenSet : Text := " {1.5, x} ".toList

/-- The blank before the stray character belongs to the prefix. -/
theorem parse_error_brokenSet :
    parse brokenSet = .error (.malformed "{1.5, x}".toList ⟨6, .strayCharacter 'x'⟩) ∧
      (∃ tail interval, parse ("\x7b1.5, ".toList ++ tail) = .ok interval) ∧
      (parseLogged brokenSet).events.map Log.Event.name = ["interval_parse_failed"] := by
  have hparse : parse brokenSet =
      .error (.malformed "{1.5, x}".toList ⟨6, .strayCharacter 'x'⟩) := by rfl
  obtain ⟨_, hdefect, _⟩ := parse_error_at_viable_prefix brokenSet
  obtain ⟨_, p, hp, _, hcompletion, event, hevents, _, hname, _⟩ := hdefect _ _ hparse
  have hsix : p = 6 := by
    simp only [Defect.report, Option.some.injEq] at hp
    omega
  subst hsix
  refine ⟨hparse, hcompletion, ?_⟩
  rw [hevents, List.map_singleton, hname]

end Interval
end Phrasebook
