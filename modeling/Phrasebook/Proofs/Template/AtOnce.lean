import Phrasebook.Proofs.Template.Pieces
import Phrasebook.Proofs.Text.Fields

/-!
# Phrasebook.Proofs.Template.AtOnce

Filling in all placeholders of a message at once. `expandAtOnce` reads the message a single time and
takes, at each colon, the longest name that fits there. `expand_eq_expandAtOnce` says when the passes
of `expand`, one for each name, come to the same.
-/

namespace Phrasebook
namespace Template

open Unicode

/-- Of the entries whose name stands at the start of a text, the one with the longest name, and of
several of this length the first. The empty name does not count. -/
def longest? (afterColon : Text) : List (Text × Value) → Option (Text × Value)
  | [] => none
  | entry :: rest =>
    if entry.1 ≠ [] ∧ startsWith entry.1 afterColon then
      match longest? afterColon rest with
      | some other => if other.1.length ≤ entry.1.length then some entry else some other
      | none => some entry
    else longest? afterColon rest

/-- The rule of all names at once: the value of the longest name in the casing of the placeholder. -/
def longestRule (replacements : Replacements) : Rule := fun afterColon =>
  (longest? afterColon replacements.entries).map fun entry =>
    (entry.1.length,
      (Casing.ofToken (sentinel :: afterColon.take entry.1.length)).apply entry.2.shown)

/-- The message with its placeholders filled in from left to right, if the values have texts. -/
def expandAtOnce (message : Text) (replacements : Replacements) : Except Numeral.IntegerError Text :=
  if ∀ entry ∈ replacements.entries, entry.1 ≠ [] → entry.2.HasText then
    .ok (scan (longestRule replacements) 0 message)
  else .error .unwritable

/-- Between two colons of the message there is always a character that no name can match. -/
def ColonsApart (names : List Text) (message : Text) : Prop :=
  ∀ before between after, message = before ++ sentinel :: (between ++ sentinel :: after) →
    sentinel ∉ between → ∃ c ∈ between, Blocks names c

/-! ## The longest name -/

/-- Whether a name counts at a text. -/
def fits (afterColon : Text) (entry : Text × Value) : Bool :=
  entry.1 ≠ [] ∧ startsWith entry.1 afterColon = true

theorem find?_insert (afterColon : Text) (entry : Text × Value) {ranking : List (Text × Value)}
    (h : ranking.Pairwise fun a b => b.1.length ≤ a.1.length) :
    (Ranking.insert (fun a b => b.1.length ≤ a.1.length) entry ranking).find? (fits afterColon) =
      if fits afterColon entry then
        match ranking.find? (fits afterColon) with
        | some other => if other.1.length ≤ entry.1.length then some entry else some other
        | none => some entry
      else ranking.find? (fits afterColon) := by
  induction ranking with
  | nil => by_cases hfit : fits afterColon entry <;> simp [Ranking.insert, hfit]
  | cons first ranking ih =>
    obtain ⟨hfirst, hranking⟩ := List.pairwise_cons.mp h
    simp only [Ranking.insert, decide_eq_true_eq]
    split
    · rename_i hle
      -- the entry goes in front, and no name behind it is longer
      by_cases hfit : fits afterColon entry
      · rw [List.find?_cons_of_pos hfit, if_pos hfit]
        cases hfound : (first :: ranking).find? (fits afterColon) with
        | none => rfl
        | some other =>
          have hother : other.1.length ≤ first.1.length := by
            rcases List.mem_cons.mp (List.mem_of_find?_eq_some hfound) with rfl | hmem
            · exact Nat.le_refl _
            · exact hfirst other hmem
          simp only [if_pos (Nat.le_trans hother hle)]
      · rw [List.find?_cons_of_neg hfit, if_neg hfit]
    · rename_i hlt
      by_cases hfit : fits afterColon first
      · rw [List.find?_cons_of_pos hfit, List.find?_cons_of_pos hfit]
        simp only [if_neg hlt, ite_self]
      · rw [List.find?_cons_of_neg hfit, List.find?_cons_of_neg hfit, ih hranking]

theorem byLength_total (a b : Text × Value) (h : decide (b.1.length ≤ a.1.length) = false) :
    decide (a.1.length ≤ b.1.length) = true := by
  simp only [decide_eq_false_iff_not, decide_eq_true_eq] at h ⊢
  omega

theorem byLength_trans (a b c : Text × Value) (hab : decide (b.1.length ≤ a.1.length) = true)
    (hbc : decide (c.1.length ≤ b.1.length) = true) : decide (c.1.length ≤ a.1.length) = true := by
  simp only [decide_eq_true_eq] at hab hbc ⊢
  omega

theorem pairwise_rankedByLength (entries : List (Text × Value)) :
    (Ranking.ranked (fun a b => b.1.length ≤ a.1.length) entries).Pairwise
      fun a b => b.1.length ≤ a.1.length := by
  have h := Ranking.pairwise_ranked byLength_total byLength_trans entries
  simpa using h

/-- The first name that fits, longer names first, is the longest one. -/
theorem find?_byLength (afterColon : Text) (replacements : Replacements) :
    (byLength replacements).find? (fun entry => startsWith entry.1 afterColon) =
      longest? afterColon replacements.entries := by
  have hranked : ∀ entries : List (Text × Value),
      (Ranking.ranked (fun a b => b.1.length ≤ a.1.length) entries).find? (fits afterColon) =
        longest? afterColon entries := by
    intro entries
    induction entries with
    | nil => rfl
    | cons entry rest ih =>
      rw [Ranking.ranked, find?_insert afterColon entry (pairwise_rankedByLength rest), ih, longest?]
      simp only [fits, decide_eq_true_eq]
  rw [byLength, List.find?_filter, ← hranked]
  congr 1
  funext entry
  simp [fits]

theorem firstRule_byLength (replacements : Replacements) :
    firstRule (byLength replacements) = longestRule replacements := by
  funext afterColon
  rw [longestRule, ← find?_byLength, firstRule]
  induction byLength replacements with
  | nil => rfl
  | cons entry rest ih =>
    simp only [List.findSome?_cons, List.find?_cons, nameRule]
    cases startsWith entry.1 afterColon with
    | true => rfl
    | false => exact ih

theorem confined_firstRule {names : List Text} {entries : List (Text × Value)}
    (h : ∀ entry ∈ entries, entry.1 ∈ names) : Confined names (firstRule entries) where
  rule_append t rest hblock := by
    induction entries with
    | nil => rfl
    | cons entry entries ih =>
      have hentry := confined_nameRule (h entry (by simp)) entry.2.shown
      simp only [firstRule, List.findSome?_cons] at ih ⊢
      rw [hentry.rule_append t rest hblock, ih fun e he => h e (by simp [he])]
  length_le t length value hvalue := by
    obtain ⟨entry, hmem, hrule⟩ := List.exists_of_findSome?_eq_some hvalue
    exact (confined_nameRule (h entry hmem) entry.2.shown).length_le t length value hrule

/-! ## The pieces of a message -/

/-- The text before the first colon, and a waiting piece for each colon. -/
def piecesOf (message : Text) : List Piece :=
  match Text.fields sentinel message with
  | [] => []
  | first :: rest => .settled first :: rest.map .waiting

theorem render_piecesOf (message : Text) : render (piecesOf message) = message := by
  have hjoin : ∀ (first : Text) (rest : List Text),
      render (.settled first :: rest.map .waiting) = Text.joinWith [sentinel] (first :: rest) := by
    intro first rest
    induction rest generalizing first with
    | nil => simp [render, Piece.text, Text.joinWith]
    | cons next rest ih =>
      rw [Text.joinWith, ← ih, List.map_cons, render_cons, render_cons, render_cons]
      simp [Piece.text]
  cases hf : Text.fields sentinel message with
  | nil => exact absurd hf (Text.fields_ne_nil sentinel message)
  | cons first rest =>
    have h := Text.joinWith_fields sentinel message
    rw [hf, ← hjoin] at h
    simpa only [piecesOf, hf] using h

/-- Where colons stand apart, the pieces are shielded, by induction on the pieces that are left. -/
theorem shielded_waiting {names : List Text} {message : Text} (h : ColonsApart names message)
    {texts : List Text} (htexts : ∀ t ∈ texts, sentinel ∉ t) (before : Text)
    (hmessage : message = before ++ render (texts.map .waiting)) :
    Shielded names (texts.map .waiting) := by
  induction texts generalizing before with
  | nil => exact .nil
  | cons t texts ih =>
    have ht := htexts t (by simp)
    cases texts with
    | nil => exact .last ht
    | cons next texts =>
      have hrest : message = (before ++ sentinel :: t) ++ render ((next :: texts).map .waiting) := by
        rw [hmessage, List.map_cons, render_cons, List.append_assoc]
        rfl
      have hblock : ∃ c ∈ t, Blocks names c := by
        refine h before t (next ++ render (texts.map .waiting)) ?_ ht
        rw [hrest, List.map_cons, render_cons, List.append_assoc]
        rfl
      exact .waiting ht hblock (ih (fun t ht => htexts t (by simp [ht])) _ hrest)

theorem shielded_piecesOf {names : List Text} {message : Text} (h : ColonsApart names message) :
    Shielded names (piecesOf message) := by
  have hrender := render_piecesOf message
  have hplain : ∀ part ∈ Text.fields sentinel message, sentinel ∉ part :=
    fun _ h => Text.not_mem_of_mem_fields h
  unfold piecesOf at hrender ⊢
  split
  · exact .nil
  · rename_i first rest hf
    rw [hf] at hrender hplain
    exact .settled (hplain first (by simp))
      (shielded_waiting h (fun t ht => hplain t (by simp [ht])) first hrender.symm)

theorem blocks_of_all {names : List Text} {c : Char}
    (h : (names.all fun name => name.all fun k => !standsFor k c) = true) : Blocks names c := by
  intro name hname k hk
  have hall := List.all_eq_true.mp h name hname
  simpa using List.all_eq_true.mp hall k hk

theorem colonsApart_of_fields {names : List Text} {message : Text}
    (h : ∀ t ∈ (Text.fields sentinel message).tail.dropLast, ∃ c ∈ t, Blocks names c) :
    ColonsApart names message := by
  intro before between after hmessage hbetween
  apply h
  rw [hmessage, Text.fields_append_sep, Text.fields_append_sep, Text.fields_of_not_mem hbetween]
  obtain ⟨_, _, hbefore⟩ := List.exists_cons_of_ne_nil (Text.fields_ne_nil sentinel before)
  obtain ⟨_, _, hafter⟩ := List.exists_cons_of_ne_nil (Text.fields_ne_nil sentinel after)
  simp [hbefore, hafter, List.dropLast_append_of_ne_nil]

/-! ## All at once -/

theorem haveTexts_byLength_iff {replacements : Replacements} :
    HaveTexts (byLength replacements) ↔
      ∀ entry ∈ replacements.entries, entry.1 ≠ [] → entry.2.HasText := by
  simp only [HaveTexts, mem_byLength_iff, and_imp]

/-- **Filling in name by name is filling in at once**, if values have no colon in any casing and
between two colons of the message there is a character that no name can match. -/
theorem expand_eq_expandAtOnce (message : Text) (replacements : Replacements)
    (hvalues : PlainValues replacements.entries)
    (hcolons : ColonsApart replacements.keys message) :
    expand message replacements = expandAtOnce message replacements := by
  have hmem : ∀ entry ∈ byLength replacements, entry ∈ replacements.entries :=
    fun _ h => mem_entries_of_mem_byLength h
  have hnames : ∀ entry ∈ byLength replacements, entry.1 ∈ replacements.keys :=
    fun entry h => List.mem_map_of_mem (hmem entry h)
  have hshield := shielded_piecesOf hcolons
  have hpasses := passes_render hnames (hvalues.mono hmem) hshield
  have hscan := scan_render (confined_firstRule hnames) hshield
  rw [render_piecesOf] at hpasses hscan
  have hsame : fill message replacements = scan (longestRule replacements) 0 message := by
    rw [fill, hpasses, ← firstRule_byLength, hscan]
  simp only [expand_eq, expandAtOnce, haveTexts_byLength_iff, hsame]

/-- A message where one name is the start of another and two names differ in case only. -/
def statusMessage : Text := ":NAME has :items, :Item more".toList

def statusReplacements : Replacements :=
  .ofList [("item".toList, .integer 3), ("Name".toList, .text "ann".toList),
    ("items".toList, .text "many".toList), ("NAME".toList, .text "bob".toList)]

theorem expand_statusMessage :
    PlainValues statusReplacements.entries ∧
      ColonsApart statusReplacements.keys statusMessage ∧
      expand statusMessage statusReplacements = expandAtOnce statusMessage statusReplacements ∧
      expandAtOnce statusMessage statusReplacements = .ok "ANN has many, 3 more".toList := by
  have hvalues : PlainValues statusReplacements.entries := by decide
  have hcolons : ColonsApart statusReplacements.keys statusMessage := by
    have hspace : Blocks statusReplacements.keys ' ' := blocks_of_all (by decide)
    have hinner : ∀ t ∈ (Text.fields sentinel statusMessage).tail.dropLast, ' ' ∈ t := by decide
    exact colonsApart_of_fields fun t ht => ⟨' ', hinner t ht, hspace⟩
  exact ⟨hvalues, hcolons, expand_eq_expandAtOnce _ _ hvalues hcolons, by decide +kernel⟩

end Template
end Phrasebook
