import Phrasebook.Proofs.Template.Unused

/-!
# Phrasebook.Proofs.Template.Composition

Filling in a message in parts, and filling it in again.

* `scan_append_cons`: a pass of a rule that stops at a character works on the texts before and after
  that character for itself.
* `expand_append_cons`: so a message may be cut at a character that no name can match. The passes
  agree on that even where values hold placeholders of other names.
* `fill_render`: an expansion fills each of the pieces of a message once.
* `expand_expand`: the colons that are left have no name behind them, and a second expansion finds
  nothing to do.
-/

namespace Phrasebook
namespace Template

open Unicode

/-! ## In parts -/

/-- A pass with a rule that looks no further than `c`, and takes no more than there is before it. -/
theorem scan_append_cons {rule : Rule} {c : Char} (hc : c ≠ sentinel)
    (hrule : ∀ t rest, rule (t ++ c :: rest) = rule t)
    (hlength : ∀ t length value, rule t = some (length, value) → length ≤ t.length)
    {before : Text} {skip : Nat} (hskip : skip ≤ before.length) (after : Text) :
    scan rule skip (before ++ c :: after) = scan rule skip before ++ c :: scan rule 0 after := by
  induction before generalizing skip with
  | nil =>
    have hzero : skip = 0 := Nat.le_zero.mp hskip
    subst hzero
    simp [hc]
  | cons d before ih =>
    cases skip with
    | succ skip => exact ih (Nat.le_of_succ_le_succ hskip)
    | zero =>
      have hcopy := ih (Nat.zero_le before.length)
      by_cases hd : d = sentinel
      · -- at a colon the rule says the same, whatever stands behind `c`
        subst hd
        have hsame := hrule before after
        cases hfound : rule before with
        | none => simp [hsame, hfound, hcopy]
        | some found =>
          obtain ⟨length, value⟩ := found
          rw [List.cons_append, scan_sentinel_of_some (hsame.trans hfound),
            scan_sentinel_of_some hfound, ih (hlength before length value hfound), List.append_assoc]
      · simp [hd, hcopy]

theorem substitute_append_cons {name : Text} {c : Char} (hc : c ≠ sentinel)
    (hblock : ∀ k ∈ name, standsFor k c = false) (before after value : Text) :
    substitute (before ++ c :: after) name value =
      substitute before name value ++ c :: substitute after name value := by
  refine scan_append_cons hc (nameRule_append_cons hblock value) ?_ (Nat.zero_le _) after
  intro t length written hfound
  obtain ⟨hstart, rfl, _⟩ := nameRule_eq_some hfound
  exact length_le_of_startsWith hstart

theorem passes_append_cons {c : Char} (hc : c ≠ sentinel) {entries : List (Text × Value)}
    (hblock : ∀ entry ∈ entries, ∀ k ∈ entry.1, standsFor k c = false) (before after : Text) :
    passes (before ++ c :: after) entries = passes before entries ++ c :: passes after entries := by
  induction entries generalizing before after with
  | nil => rfl
  | cons entry entries ih =>
    rw [passes_cons, passes_cons, passes_cons,
      substitute_append_cons hc (hblock entry List.mem_cons_self),
      ih fun other hother => hblock other (List.mem_cons_of_mem entry hother)]

/-- **A message is filled in part by part.** A character other than the colon that no character of any
name matches cuts a message: what stands before it and what stands after it are filled in each for
itself, whatever the values are. If some value has no text, neither the whole nor a part is filled in. -/
theorem expand_append_cons {replacements : Replacements} {c : Char} (hc : c ≠ sentinel)
    (hblock : Blocks replacements.keys c) (before after : Text) :
    expand (before ++ c :: after) replacements = do
      let first ← expand before replacements
      let second ← expand after replacements
      return first ++ c :: second := by
  have hparts : fill (before ++ c :: after) replacements =
      fill before replacements ++ c :: fill after replacements := by
    refine passes_append_cons hc (fun entry hentry => ?_) before after
    exact hblock entry.1 (List.mem_map_of_mem (mem_entries_of_mem_byLength hentry))
  by_cases htexts : HaveTexts (byLength replacements)
  · rw [expand_of_haveTexts htexts, expand_of_haveTexts htexts, expand_of_haveTexts htexts, hparts]
    rfl
  · rw [expand_of_not_haveTexts htexts, expand_of_not_haveTexts htexts, error_bind]

/-- The value of the longer name is the placeholder of the shorter one. -/
def travelReplacements : Replacements :=
  .ofList [("city".toList, .text ":go".toList), ("go".toList, .text "Rome".toList)]

theorem expand_travel :
    ',' ≠ sentinel ∧ Blocks travelReplacements.keys ',' ∧
      expand "To :CITY".toList travelReplacements = .ok "To ROME".toList ∧
      expand " :go".toList travelReplacements = .ok " Rome".toList ∧
      expand "To :CITY, :go".toList travelReplacements = .ok "To ROME, Rome".toList := by
  have hcomma : ',' ≠ sentinel := by decide
  have hblock : Blocks travelReplacements.keys ',' := blocks_of_all (by decide)
  have hbefore : expand "To :CITY".toList travelReplacements = .ok "To ROME".toList := by
    decide
  have hafter : expand " :go".toList travelReplacements = .ok " Rome".toList := by decide +kernel
  have hwhole := expand_append_cons hcomma hblock "To :CITY".toList " :go".toList
  rw [hbefore, hafter] at hwhole
  exact ⟨hcomma, hblock, hbefore, hafter, hwhole⟩

/-! ## Again -/

theorem fill_render {replacements : Replacements} (hvalues : PlainValues replacements.entries)
    {pieces : List Piece} (h : Shielded replacements.keys pieces) :
    fill (render pieces) replacements =
      render (pieces.map (Piece.fill (firstRule (byLength replacements)))) := by
  have hmem : ∀ entry ∈ byLength replacements, entry ∈ replacements.entries :=
    fun _ hentry => mem_entries_of_mem_byLength hentry
  exact passes_render (fun entry hentry => List.mem_map_of_mem (hmem entry hentry))
    (hvalues.mono hmem) h

theorem fill_fill_self (piece : Piece) (rule : Rule) :
    (piece.fill rule).fill rule = piece.fill rule := by
  rw [fill_fill]
  simp only [Option.or_self]

/-- **Filling in again changes nothing**, if values have no colon in any casing and between two colons
of the message there is a character that no name can match. -/
theorem expand_expand (message : Text) (replacements : Replacements)
    (hvalues : PlainValues replacements.entries)
    (hcolons : ColonsApart replacements.keys message) :
    (expand message replacements >>= fun filled => expand filled replacements) =
      expand message replacements := by
  have hplain := hvalues.mono fun _ hentry => mem_entries_of_mem_byLength hentry
  have hshield := shielded_piecesOf hcolons
  have honce : fill message replacements =
      render ((piecesOf message).map (Piece.fill (firstRule (byLength replacements)))) := by
    rw [← fill_render hvalues hshield, render_piecesOf]
  -- the filled pieces are still shielded, so the second expansion also works piece by piece
  have hagain : fill (fill message replacements) replacements = fill message replacements := by
    rw [honce, fill_render hvalues (hshield.fill (writesNoColon_firstRule hplain)), List.map_map]
    congr 1
    apply List.map_congr_left
    intro piece _
    exact fill_fill_self piece (firstRule (byLength replacements))
  by_cases htexts : HaveTexts (byLength replacements)
  · rw [expand_of_haveTexts htexts, ok_bind, expand_of_haveTexts htexts, hagain]
  · rw [expand_of_not_haveTexts htexts, error_bind]

/-- A message with a placeholder that has no value, and values next to it. -/
def arrivalMessage : Text := ":NAME came to :city by :by, :Names".toList

def arrivalReplacements : Replacements :=
  .ofList [("name".toList, .text "ann".toList), ("names".toList, .integer 2),
    ("b".toList, .text "name".toList)]

theorem expand_arrivalMessage :
    PlainValues arrivalReplacements.entries ∧
      ColonsApart arrivalReplacements.keys arrivalMessage ∧
      expand arrivalMessage arrivalReplacements = .ok "ANN came to :city by namey, 2".toList ∧
      expand "ANN came to :city by namey, 2".toList arrivalReplacements =
        .ok "ANN came to :city by namey, 2".toList := by
  have hvalues : PlainValues arrivalReplacements.entries := by decide
  have hcolons : ColonsApart arrivalReplacements.keys arrivalMessage := by
    have hspace : Blocks arrivalReplacements.keys ' ' := blocks_of_all (by decide)
    have hinner : ∀ t ∈ (Text.fields sentinel arrivalMessage).tail.dropLast, ' ' ∈ t := by decide
    exact colonsApart_of_fields fun t ht => ⟨' ', hinner t ht, hspace⟩
  have honce : expand arrivalMessage arrivalReplacements =
      .ok "ANN came to :city by namey, 2".toList := by
    decide +kernel
  have hagain := expand_expand arrivalMessage arrivalReplacements hvalues hcolons
  rw [honce, ok_bind] at hagain
  exact ⟨hvalues, hcolons, honce, hagain⟩

end Template
end Phrasebook
