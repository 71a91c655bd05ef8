import Phrasebook.Proofs.Interval.Lexeme

/-!
# Phrasebook.Proofs.Interval.Scan

How the tokens of a text lie in it.

* `Scan position t lexed`: the text is cut into gaps of white space, lexemes, and what is left of it
  at its end. `scan_iff` says that this is what `lexAfter` does.
* `Scan.spells`: a text that is scanned to its end spells its tokens.
* `Spells.scan`: words that stay apart, however they are laid out, are found again as tokens,
  whatever follows them.
-/

namespace Phrasebook
namespace Interval

open Unicode Text

/-- The tokens of a text that starts at a position, and where they end. -/
inductive Scan : Nat → Text → Lexed → Prop where
  | done {position : Nat} {gap : Text} :
      AllBlank gap → Scan position gap ⟨[], .endOfText (position + gap.length)⟩
  | stray {position : Nat} {gap rest : Text} {c : Char} :
      AllBlank gap → isBlank c = false → lexeme? (c :: rest) = none →
      Scan position (gap ++ c :: rest) ⟨[], .stray (position + gap.length) c⟩
  | token {position : Nat} {gap w rest : Text} {kind : TokenKind} {later : Lexed} :
      AllBlank gap → lexeme? (w ++ rest) = some (kind, w) →
      Scan (position + gap.length + w.length) rest later →
      Scan position (gap ++ (w ++ rest))
        ⟨⟨kind, w, position + gap.length⟩ :: later.tokens, later.ending⟩

theorem Scan.blanks {position : Nat} {gap t : Text} {lexed : Lexed} (hgap : AllBlank gap)
    (h : Scan (position + gap.length) t lexed) : Scan position (gap ++ t) lexed := by
  cases h with
  | done ht =>
    rw [Nat.add_assoc, ← List.length_append]
    exact .done (hgap.append ht)
  | stray ht hc hnone =>
    rw [Nat.add_assoc, ← List.length_append, ← List.append_assoc]
    exact .stray (hgap.append ht) hc hnone
  | token ht hw h =>
    rw [Nat.add_assoc position, ← List.length_append] at h ⊢
    rw [← List.append_assoc]
    exact .token (hgap.append ht) hw h

/-! ## The scan and the reader -/

theorem lexAfter_blanks {gap : Text} (hgap : AllBlank gap) (position : Nat) (t : Text) :
    lexAfter 0 position (gap ++ t) = lexAfter 0 (position + gap.length) t := by
  induction gap generalizing position with
  | nil => rfl
  | cons c gap ih =>
    have hc : isBlank c = true := hgap c (by simp)
    rw [List.cons_append, lexAfter]
    simp only [hc, if_true]
    rw [ih (fun d hd => hgap d (by simp [hd])), List.length_cons]
    congr 1
    omega

theorem lexAfter_lexeme {w rest : Text} {kind : TokenKind}
    (h : lexeme? (w ++ rest) = some (kind, w)) (position : Nat) :
    lexAfter 0 position (w ++ rest) =
      ⟨⟨kind, w, position⟩ :: (lexAfter 0 (position + w.length) rest).tokens,
        (lexAfter 0 (position + w.length) rest).ending⟩ := by
  obtain ⟨⟨c, body, rfl, hc⟩, _⟩ := (lexeme?_sound h).solid
  rw [List.cons_append] at h
  rw [List.cons_append, lexAfter]
  simp only [hc, Bool.false_eq_true, if_false, h, List.length_cons, Nat.add_sub_cancel]
  rw [lexAfter_eq_drop (position + 1) (by simp), List.drop_left,
    show position + 1 + body.length = position + (body.length + 1) by omega]

theorem Scan.eq_lexAfter {position : Nat} {t : Text} {lexed : Lexed}
    (h : Scan position t lexed) : lexed = lexAfter 0 position t := by
  induction h with
  | @done position gap hgap =>
    have := lexAfter_blanks hgap position []
    rw [List.append_nil] at this
    rw [this]
    rfl
  | stray hgap hc hnone =>
    rw [lexAfter_blanks hgap, lexAfter]
    simp [hc, hnone]
  | token hgap hw _ ih => rw [lexAfter_blanks hgap, lexAfter_lexeme hw, ← ih]

/-- Every text is scanned, by induction on its length. -/
theorem exists_scan (t : Text) : ∀ position, ∃ lexed, Scan position t lexed := by
  induction hn : t.length using Nat.strongRecOn generalizing t with
  | ind n ih =>
    intro position
    obtain ⟨gap, hgap, ht⟩ := exists_blanks_before t
    cases hcore : trimLeft t with
    | nil =>
      rw [hcore, List.append_nil] at ht
      rw [ht]
      exact ⟨_, .done hgap⟩
    | cons c rest =>
      rw [hcore] at ht
      have hc : isBlank c = false := head?_trimLeft (t := t) (by rw [hcore]; rfl)
      cases hl : lexeme? (c :: rest) with
      | none =>
        rw [ht]
        exact ⟨_, .stray hgap hc hl⟩
      | some found =>
        obtain ⟨kind, w⟩ := found
        obtain ⟨⟨after, hw⟩, hne⟩ := lexeme?_isPrefix hl
        have hpos := List.length_pos_iff.mpr hne
        rw [← hw] at ht hl
        have hlen := congrArg List.length ht
        rw [List.length_append, List.length_append] at hlen
        obtain ⟨later, hlater⟩ :=
          ih after.length (by omega) after rfl (position + gap.length + w.length)
        rw [ht]
        exact ⟨_, .token hgap hl hlater⟩

theorem scan_iff {position : Nat} {t : Text} {lexed : Lexed} :
    Scan position t lexed ↔ lexed = lexAfter 0 position t := by
  refine ⟨Scan.eq_lexAfter, ?_⟩
  rintro rfl
  obtain ⟨lexed, h⟩ := exists_scan t position
  rw [← h.eq_lexAfter]
  exact h

theorem scan_lex (t : Text) : Scan 0 t (lex t) :=
  scan_iff.mpr rfl

/-! ## Tokens and words -/

/-- Every token is a lexeme and a part of the text. -/
theorem Scan.lexemes {position : Nat} {t : Text} {lexed : Lexed} (h : Scan position t lexed) :
    ∀ token ∈ lexed.tokens, Lexeme token.kind token.text ∧ token.text <:+: t := by
  induction h with
  | done => simp
  | stray => simp
  | @token position gap w rest kind later hgap hw _ ih =>
    intro token htoken
    rcases List.mem_cons.mp htoken with rfl | htoken
    · exact ⟨lexeme?_sound hw, ⟨gap, rest, by simp⟩⟩
    · obtain ⟨hlexeme, hpart⟩ := ih token htoken
      refine ⟨hlexeme, hpart.trans ?_⟩
      exact ⟨gap ++ w, [], by simp⟩

/-- A text that is scanned to its end spells its tokens. -/
theorem Scan.spells {position stop : Nat} {t : Text} {lexed : Lexed} (h : Scan position t lexed)
    (hend : lexed.ending = .endOfText stop) : Spells (lexed.tokens.map Token.text) t := by
  induction h with
  | done hgap => exact .nil hgap
  | stray => cases hend
  | token hgap _ _ ih => exact .cons hgap (ih hend)

/-- Words that stay apart: what follows a number is a word of one character. -/
inductive Lexemes : List Text → Prop where
  | nil : Lexemes []
  | other {kind : TokenKind} {w : Text} {words : List Text} :
      Lexeme kind w → kind ≠ .number → Lexemes words → Lexemes (w :: words)
  | number {w : Text} {n : Int} {c : Char} {kind : TokenKind} {words : List Text} :
      Number w n → symbol? c = some kind → Lexemes words → Lexemes (w :: [c] :: words)

theorem stops_symbol {gap rest : Text} {c : Char} {kind : TokenKind} (hgap : AllBlank gap)
    (hc : symbol? c = some kind) : Stops (gap ++ c :: rest) := by
  intro d hd
  cases gap with
  | nil =>
    simp only [List.nil_append, List.head?_cons, Option.some.injEq] at hd
    subst hd
    exact stops_of_symbol? hc
  | cons b gap =>
    simp only [List.cons_append, List.head?_cons, Option.some.injEq] at hd
    subst hd
    have hb : isBlank b = true := hgap b (by simp)
    refine ⟨?_, ?_⟩
    · cases hdigit : isAsciiDigit b with
      | false => rfl
      | true => rw [isBlank_of_isAsciiDigit hdigit] at hb; cases hb
    · rintro rfl
      exact absurd hb (by decide)

/-- The words of a text are found again as tokens, whatever follows the text. -/
theorem Spells.scan {words : List Text} (hwords : Lexemes words) {position : Nat} {t rest : Text}
    {later : Lexed} (h : Spells words t) (hrest : Scan (position + t.length) rest later) :
    ∃ tokens, tokens.map Token.text = words ∧
      Scan position (t ++ rest) ⟨tokens ++ later.tokens, later.ending⟩ := by
  induction hwords generalizing position t with
  | nil =>
    cases h with
    | nil hgap => exact ⟨[], rfl, hrest.blanks hgap⟩
  | @other kind w words hw hkind _ ih =>
    cases h with
    | @cons gap _ t _ hgap ht =>
      rw [List.length_append, List.length_append, ← Nat.add_assoc, ← Nat.add_assoc] at hrest
      obtain ⟨tokens, htokens, hscan⟩ := ih ht hrest
      refine ⟨⟨kind, w, position + gap.length⟩ :: tokens, by rw [List.map_cons, htokens], ?_⟩
      rw [List.append_assoc, List.append_assoc]
      exact .token hgap (lexeme?_append hw fun hk => absurd hk hkind) hscan
  | @number w n c kind words hn hc _ ih =>
    cases h with
    | @cons gap _ t _ hgap ht =>
      cases ht with
      | @cons between _ t _ hbetween ht =>
        rw [List.length_append, List.length_append, List.length_append, List.length_append,
          ← Nat.add_assoc, ← Nat.add_assoc, ← Nat.add_assoc, ← Nat.add_assoc] at hrest
        obtain ⟨tokens, htokens, hscan⟩ := ih ht hrest
        refine ⟨⟨.number, w, position + gap.length⟩ ::
          ⟨kind, [c], position + gap.length + w.length + between.length⟩ :: tokens,
          by rw [List.map_cons, List.map_cons, htokens], ?_⟩
        have hsymbol : Lexeme kind [c] := .symbol hc
        have hnumber : Lexeme .number w := .number hn
        have hc' : lexeme? ([c] ++ (t ++ rest)) = some (kind, [c]) :=
          lexeme?_append hsymbol fun hk => by
            subst hk
            exact absurd hc symbol?_ne_number
        have hw' : lexeme? (w ++ (between ++ ([c] ++ (t ++ rest)))) = some (.number, w) :=
          lexeme?_append hnumber fun _ => stops_symbol hbetween hc
        have hscan' := Scan.token hgap hw' (.token hbetween hc' hscan)
        simpa [List.append_assoc] using hscan'

end Interval
end Phrasebook
