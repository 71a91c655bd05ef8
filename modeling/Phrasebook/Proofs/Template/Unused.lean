import Mathlib.Data.List.Nodup
import Phrasebook.Proofs.Template.AtOnce

/-!
# Phrasebook.Proofs.Template.Unused

Values that a message has no use for. A pass of `expand` runs over everything that the passes
before it have written, so whether a value is used is decided by the text that the pass of its key
is given, `filledBefore`, and not by the message.

* `exists_passes`: a key adds one pass to those of the other keys, at its place among them.
* `run_infix_passes`, `le_length_passes`: passes leave most of a long run of one character, so that a
  value with such a run in it can be told from what the passes leave without it.
* `expand_erase`: a value is ignored, whatever it is, exactly if its placeholder does not occur in
  the text before its pass. No value brings a placeholder there if values have no colons and the
  colons of the message stand apart.
* `expand_value_inside_value`: a value that holds the placeholder of another key is filled in.
-/

namespace Phrasebook
namespace Dictionary

variable {α : Type}

/-- The dictionary without a key. -/
def erase (d : Dictionary α) (key : Text) : Dictionary α where
  entries := d.entries.filter (·.1 ≠ key)
  nodup := d.nodup.sublist (List.filter_sublist.map Prod.fst)

/-- An entry, with another value if it is that of `key`. -/
def setEntry (key : Text) (value : α) (entry : Text × α) : Text × α :=
  if entry.1 = key then (key, value) else entry

theorem fst_setEntry (key : Text) (value : α) (entry : Text × α) :
    (setEntry key value entry).1 = entry.1 := by
  rw [setEntry]
  split
  · rename_i h
    exact h.symm
  · rfl

theorem map_setEntry_of_ne {key : Text} {entries : List (Text × α)}
    (h : ∀ entry ∈ entries, entry.1 ≠ key) (value : α) :
    entries.map (setEntry key value) = entries := by
  have hid : ∀ entry ∈ entries, setEntry key value entry = entry :=
    fun entry hentry => if_neg (h entry hentry)
  rw [List.map_congr_left hid, List.map_id']

theorem putEntry_of_mem {key : Text} {entries : List (Text × α)}
    (hnodup : (entries.map Prod.fst).Nodup) (hmem : key ∈ entries.map Prod.fst) (value : α) :
    putEntry key value entries = entries.map (setEntry key value) := by
  induction entries with
  | nil => simp at hmem
  | cons entry rest ih =>
    obtain ⟨k, v⟩ := entry
    rw [List.map_cons, List.nodup_cons] at hnodup
    obtain ⟨hk, hrest⟩ := hnodup
    by_cases h : k = key
    · subst h
      have hne : ∀ entry ∈ rest, entry.1 ≠ k := by
        intro entry hentry he
        exact hk (List.mem_map.mpr ⟨entry, hentry, he⟩)
      simp [putEntry, setEntry, map_setEntry_of_ne hne]
    · have hmem : key ∈ rest.map Prod.fst := by simpa [Ne.symm h] using hmem
      simp [putEntry, setEntry, h, ih hrest hmem]

end Dictionary

namespace Template

open Unicode

/-- Whether the placeholder of a name stands anywhere in a text. -/
def occurs (name : Text) : Text → Bool
  | [] => false
  | c :: rest => (c == sentinel && startsWith name rest) || occurs name rest

/-- The text that the pass of a key is given. -/
def filledBefore (key : Text) (replacements : Replacements) (message : Text) : Text :=
  passes message ((byLength replacements).takeWhile (·.1 ≠ key))

/-! ## The pass of a key -/

theorem substitute_of_not_occurs {name t : Text} (h : occurs name t = false) (value : Text) :
    substitute t name value = t := by
  rw [substitute]
  induction t with
  | nil => rfl
  | cons c rest ih =>
    simp only [occurs, Bool.or_eq_false_iff, Bool.and_eq_false_iff] at h
    by_cases hc : c = sentinel
    · have hstart : startsWith name rest = false := by simpa [hc] using h.1
      simp [hc, hstart, ih h.2]
    · simp [hc, ih h.2]

theorem byLength_erase (replacements : Replacements) (key : Text) :
    byLength (replacements.erase key) = (byLength replacements).filter (·.1 ≠ key) := by
  rw [byLength, Dictionary.erase, Ranking.ranked_filter byLength_total byLength_trans, byLength,
    List.filter_filter, List.filter_filter]
  congr 1
  funext entry
  exact Bool.and_comm _ _

theorem byLength_insert {replacements : Replacements} {key : Text} (h : key ∈ replacements.keys)
    (value : Value) :
    byLength (replacements.insert key value) =
      (byLength replacements).map (Dictionary.setEntry key value) := by
  have hentries : (replacements.insert key value).entries =
      replacements.entries.map (Dictionary.setEntry key value) :=
    Dictionary.putEntry_of_mem replacements.nodup h value
  rw [byLength, hentries, Ranking.ranked_map (by simp [Dictionary.fst_setEntry]), List.filter_map,
    byLength]
  congr 1
  apply List.filter_congr
  intro entry _
  simp only [Function.comp_apply, Dictionary.fst_setEntry]

theorem nodup_byLength (replacements : Replacements) :
    ((byLength replacements).map Prod.fst).Nodup := by
  have hperm := (Ranking.perm_ranked (fun a b : Text × Value => b.1.length ≤ a.1.length)
    replacements.entries).map Prod.fst
  exact (hperm.nodup_iff.mpr replacements.nodup).sublist (List.filter_sublist.map Prod.fst)

theorem exists_passes {replacements : Replacements} {key : Text} {value : Value}
    (h : (key, value) ∈ replacements.entries) (hne : key ≠ []) (message : Text) :
    ∃ after,
      fill message replacements =
        passes (substitute (filledBefore key replacements message) key value.shown) after ∧
      (∀ other : Value, fill message (replacements.insert key other) =
        passes (substitute (filledBefore key replacements message) key other.shown) after) ∧
      fill message (replacements.erase key) =
        passes (filledBefore key replacements message) after := by
  obtain ⟨before, after, hsplit⟩ := List.append_of_mem (mem_byLength_iff.mpr ⟨h, hne⟩)
  have hnodup := nodup_byLength replacements
  rw [hsplit, List.map_append, List.map_cons, List.nodup_append, List.nodup_cons] at hnodup
  obtain ⟨_, ⟨hkey, _⟩, hdisjoint⟩ := hnodup
  have hbefore : ∀ entry ∈ before, entry.1 ≠ key := fun entry he =>
    hdisjoint _ (List.mem_map_of_mem he) key (by simp)
  have hafter : ∀ entry ∈ after, entry.1 ≠ key := by
    intro entry he hk
    exact hkey (List.mem_map.mpr ⟨entry, he, hk⟩)
  have hfilled : filledBefore key replacements message = passes message before := by
    rw [filledBefore, hsplit, List.takeWhile_append_of_pos (by simpa using hbefore)]
    simp
  have herase : byLength (replacements.erase key) = before ++ after := by
    rw [byLength_erase, hsplit, List.filter_append, List.filter_cons_of_neg (by simp),
      List.filter_eq_self.mpr (by simpa using hbefore),
      List.filter_eq_self.mpr (by simpa using hafter)]
  have hinsert : ∀ other, byLength (replacements.insert key other) =
      before ++ (key, other) :: after := by
    intro other
    rw [byLength_insert (List.mem_map_of_mem h), hsplit, List.map_append, List.map_cons,
      Dictionary.map_setEntry_of_ne hbefore, Dictionary.map_setEntry_of_ne hafter]
    simp [Dictionary.setEntry]
  refine ⟨after, ?_, fun other => ?_, ?_⟩
  · rw [hfilled, fill, hsplit, passes_append, passes_cons]
  · rw [hfilled, fill, hinsert, passes_append, passes_cons]
  · rw [hfilled, fill, herase, passes_append]

/-! ## Values without a text -/

theorem mem_byLength_erase {replacements : Replacements} {key : Text} {entry : Text × Value} :
    entry ∈ byLength (replacements.erase key) ↔ entry ∈ byLength replacements ∧ entry.1 ≠ key := by
  rw [byLength_erase, List.mem_filter, decide_eq_true_iff]

theorem haveTexts_erase_iff {replacements : Replacements} {key : Text} {value : Value}
    (h : (key, value) ∈ replacements.entries) (htext : key = [] ∨ value.HasText) :
    HaveTexts (byLength (replacements.erase key)) ↔ HaveTexts (byLength replacements) := by
  constructor
  · intro hothers entry hentry
    by_cases hkey : entry.1 = key
    · obtain ⟨hmem, hne⟩ := mem_byLength_iff.mp hentry
      rw [List.inj_on_of_nodup_map replacements.nodup hmem h hkey]
      exact htext.resolve_left (hkey ▸ hne)
    · exact hothers entry (mem_byLength_erase.mpr ⟨hentry, hkey⟩)
  · intro hall entry hentry
    exact hall entry (mem_byLength_erase.mp hentry).1

theorem haveTexts_insert_text {replacements : Replacements} {key : Text}
    (hkey : key ∈ replacements.keys) (h : HaveTexts (byLength (replacements.erase key)))
    (text : Text) : HaveTexts (byLength (replacements.insert key (.text text))) := by
  intro entry hentry
  rw [byLength_insert hkey] at hentry
  obtain ⟨other, hother, rfl⟩ := List.mem_map.mp hentry
  by_cases hsame : other.1 = key
  · rw [Dictionary.setEntry, if_pos hsame]
    exact Value.hasText_text text
  · rw [Dictionary.setEntry, if_neg hsame]
    exact h other (mem_byLength_erase.mpr ⟨hother, hsame⟩)

/-! ## Long runs -/

theorem infix_substitute {name t value : Text} (h : occurs name t = true)
    (hcasing : ∀ casing : Casing, casing.apply value = value) :
    value <:+: substitute t name value := by
  rw [substitute]
  -- up to the first place where the placeholder stands
  induction t with
  | nil => simp [occurs] at h
  | cons c rest ih =>
    by_cases hfits : c = sentinel ∧ startsWith name rest = true
    · rw [hfits.1, scan_sentinel_of_some (nameRule_of_startsWith hfits.2 value), hcasing]
      exact List.infix_append_of_infix_left (List.infix_refl _)
    · have hrest : occurs name rest = true := by
        simp only [occurs, Bool.or_eq_true, Bool.and_eq_true, beq_iff_eq] at h
        exact h.resolve_left hfits
      have hkeep : scan (nameRule name value) 0 (c :: rest) =
          c :: scan (nameRule name value) 0 rest := by
        by_cases hc : c = sentinel
        · have hstart : startsWith name rest = false := by
            rw [Bool.eq_false_iff]
            exact fun hs => hfits ⟨hc, hs⟩
          simp [hc, hstart]
        · simp [hc]
      rw [hkeep]
      exact List.infix_cons (ih hrest)

section
variable {c : Char} (hc : c ≠ sentinel)
include hc

/-- A pass takes no more from a run than the placeholder is long, wherever in the text the run is:
no placeholder starts inside it. -/
theorem run_infix_scan {name value : Text} {n skip : Nat} (hskip : skip ≤ name.length)
    (before after : Text) :
    List.replicate (n - name.length) c <:+:
      scan (nameRule name value) skip (before ++ (List.replicate n c ++ after)) := by
  induction before generalizing skip with
  | nil =>
    have hplain : sentinel ∉ List.replicate (n - skip) c := by
      intro hmem
      exact hc (List.eq_of_mem_replicate hmem).symm
    rw [List.nil_append, scan_skip, List.drop_append, List.drop_replicate,
      scan_append_of_no_colon _ hplain]
    apply List.infix_append_of_infix_left
    rw [List.infix_replicate_iff, List.length_replicate]
    exact ⟨by omega, rfl⟩
  | cons d before ih =>
    cases skip with
    | succ skip => exact ih (by omega)
    | zero =>
      simp only [List.cons_append, scan]
      split
      · split
        · rename_i length written hrule
          obtain ⟨_, rfl, _⟩ := nameRule_eq_some hrule
          exact List.infix_append_of_infix_right (ih (Nat.le_refl _))
        · exact List.infix_cons (ih (Nat.zero_le _))
      · exact List.infix_cons (ih (Nat.zero_le _))

end

/-- The length of all names together. -/
def namesLength : List (Text × Value) → Nat
  | [] => 0
  | entry :: rest => entry.1.length + namesLength rest

theorem run_infix_passes {c : Char} (hc : c ≠ sentinel) {n : Nat} {t : Text}
    (h : List.replicate n c <:+: t) (entries : List (Text × Value)) :
    List.replicate (n - namesLength entries) c <:+: passes t entries := by
  induction entries generalizing n t with
  | nil => simpa [namesLength, passes] using h
  | cons entry entries ih =>
    obtain ⟨before, after, rfl⟩ := h
    have hpass : List.replicate (n - entry.1.length) c <:+:
        substitute (before ++ List.replicate n c ++ after) entry.1 entry.2.shown := by
      rw [List.append_assoc, substitute]
      exact run_infix_scan hc (Nat.zero_le _) before after
    have hlength : n - namesLength (entry :: entries) =
        n - entry.1.length - namesLength entries := by
      rw [namesLength]
      omega
    rw [hlength]
    exact ih hpass

/-- A value with a long run in it makes the result of the passes long. -/
theorem le_length_passes {c : Char} (hc : c ≠ sentinel) {name t value : Text} {n : Nat}
    (hoccurs : occurs name t = true) (hcasing : ∀ casing : Casing, casing.apply value = value)
    (hrun : List.replicate n c <:+: value) (entries : List (Text × Value)) :
    n ≤ (passes (substitute t name value) entries).length + namesLength entries := by
  have hthere := hrun.trans (infix_substitute hoccurs hcasing)
  have hlength := (run_infix_passes hc hthere entries).length_le
  rw [List.length_replicate] at hlength
  omega

/-- A character that is no colon and that no casing changes. -/
def filler : Char := '.'

theorem apply_replicate_filler (casing : Casing) (n : Nat) :
    casing.apply (List.replicate n filler) = List.replicate n filler := by
  apply Casing.apply_eq_self
  intro c hc
  rw [List.eq_of_mem_replicate hc]
  decide

/-- If its placeholder occurs in the text before its pass, a key has a value that shows: one that is
too long for the other passes to take away. -/
theorem exists_value_shown {replacements : Replacements} {key message : Text} {value : Value}
    (h : (key, value) ∈ replacements.entries) (hne : key ≠ [])
    (hothers : HaveTexts (byLength (replacements.erase key)))
    (hoccurs : occurs key (filledBefore key replacements message) = true) :
    ∃ text : Text, expand message (replacements.insert key (.text text)) ≠
      expand message (replacements.erase key) := by
  obtain ⟨after, _, hinsert, _⟩ := exists_passes h hne message
  rw [expand_of_haveTexts hothers]
  generalize fill message (replacements.erase key) = without
  obtain ⟨n, hn⟩ : ∃ n, n = without.length + namesLength after + 1 := ⟨_, rfl⟩
  refine ⟨List.replicate n filler, fun hsame => ?_⟩
  rw [expand_of_haveTexts (haveTexts_insert_text (List.mem_map_of_mem h) hothers _),
    Except.ok.injEq, hinsert, Value.shown_text] at hsame
  have hlong := le_length_passes (by decide : filler ≠ sentinel) hoccurs
    (fun casing => apply_replicate_filler casing n) (List.infix_refl _) after
  rw [hsame] at hlong
  omega

/-! ## Placeholders that no value brings in -/

theorem occurs_append_of_no_colon (name : Text) {t : Text} (h : sentinel ∉ t) (rest : Text) :
    occurs name (t ++ rest) = occurs name rest := by
  induction t with
  | nil => rfl
  | cons c t ih =>
    simp only [List.mem_cons, not_or] at h
    simp [occurs, Ne.symm h.1, ih h.2]

theorem occurs_append_right {name rest : Text} (h : occurs name rest = true) (t : Text) :
    occurs name (t ++ rest) = true := by
  induction t with
  | nil => exact h
  | cons c t ih => simp [occurs, ih]

theorem startsWith_append_right {name t : Text} (h : startsWith name t = true) (rest : Text) :
    startsWith name (t ++ rest) = true := by
  induction name generalizing t with
  | nil => simp [startsWith]
  | cons k name ih =>
    cases t with
    | nil => simp [startsWith] at h
    | cons c t =>
      simp only [startsWith, Bool.and_eq_true] at h
      simp [startsWith, h.1, ih h.2]

theorem occurs_of_waiting {name t : Text} {pieces : List Piece} (hmem : .waiting t ∈ pieces)
    (hstart : startsWith name t = true) : occurs name (render pieces) = true := by
  obtain ⟨before, after, rfl⟩ := List.append_of_mem hmem
  have hhere : occurs name (Piece.text (.waiting t) ++ render after) = true := by
    simp [Piece.text, occurs, startsWith_append_right hstart]
  have hrender : render (before ++ .waiting t :: after) =
      render before ++ (Piece.text (.waiting t) ++ render after) := by
    simp [render]
  rw [hrender]
  exact occurs_append_right hhere _

theorem exists_waiting_of_occurs {names : List Text} {name : Text} (hname : name ∈ names)
    {pieces : List Piece} (h : Shielded names pieces)
    (hoccurs : occurs name (render pieces) = true) :
    ∃ t, .waiting t ∈ pieces ∧ startsWith name t = true := by
  induction h with
  | nil => simp [render, occurs] at hoccurs
  | @settled t pieces ht _ ih =>
    rw [render_cons, Piece.text, occurs_append_of_no_colon name ht] at hoccurs
    obtain ⟨u, hu, hstart⟩ := ih hoccurs
    exact ⟨u, List.mem_cons_of_mem _ hu, hstart⟩
  | @last t ht =>
    have hend : occurs name t = false := by
      have hnil := occurs_append_of_no_colon name ht []
      rwa [List.append_nil] at hnil
    simp only [render, List.flatMap_singleton, Piece.text, occurs, hend, Bool.or_false,
      beq_self_eq_true, Bool.true_and] at hoccurs
    exact ⟨t, by simp, hoccurs⟩
  | @waiting t pieces ht hblock _ ih =>
    obtain ⟨c, hc, hblocks⟩ := hblock
    simp only [render_cons, Piece.text, List.cons_append, occurs, beq_self_eq_true, Bool.true_and,
      Bool.or_eq_true, occurs_append_of_no_colon name ht,
      startsWith_append ⟨c, hc, hblocks name hname⟩] at hoccurs
    rcases hoccurs with hstart | hrest
    · exact ⟨t, by simp, hstart⟩
    · obtain ⟨u, hu, hstart⟩ := ih hrest
      exact ⟨u, List.mem_cons_of_mem _ hu, hstart⟩

theorem writesNoColon_firstRule {entries : List (Text × Value)}
    (h : PlainValues entries) : WritesNoColon (firstRule entries) := by
  intro t length value hvalue
  obtain ⟨entry, hmem, hrule⟩ := List.exists_of_findSome?_eq_some hvalue
  exact writesNoColon_nameRule entry.1 (plainValues_iff.mp h entry hmem) t length value hrule

theorem waiting_of_fill {rule : Rule} {pieces : List Piece} {t : Text}
    (h : .waiting t ∈ pieces.map (Piece.fill rule)) : .waiting t ∈ pieces := by
  obtain ⟨piece, hmem, hfill⟩ := List.mem_map.mp h
  cases piece with
  | settled u => cases hfill
  | waiting u =>
    simp only [Piece.fill] at hfill
    split at hfill
    · cases hfill
    · exact hfill ▸ hmem

theorem not_occurs_filledBefore {replacements : Replacements} {key message : Text}
    (hkey : key ∈ replacements.keys) (habsent : occurs key message = false)
    (hvalues : PlainValues (replacements.erase key).entries)
    (hcolons : ColonsApart replacements.keys message) :
    occurs key (filledBefore key replacements message) = false := by
  have hbefore : ∀ entry ∈ (byLength replacements).takeWhile (·.1 ≠ key),
      entry ∈ (replacements.erase key).entries := by
    intro entry hentry
    have hne := List.all_eq_true.mp List.all_takeWhile entry hentry
    have hmem := mem_entries_of_mem_byLength ((List.takeWhile_sublist _).mem hentry)
    exact List.mem_filter.mpr ⟨hmem, hne⟩
  have hplain := hvalues.mono hbefore
  have hnames : ∀ entry ∈ (byLength replacements).takeWhile (·.1 ≠ key),
      entry.1 ∈ replacements.keys :=
    fun entry hentry => List.mem_map_of_mem (List.mem_filter.mp (hbefore entry hentry)).1
  have hshield := shielded_piecesOf hcolons
  have hfilled := passes_render hnames hplain hshield
  rw [render_piecesOf] at hfilled
  cases hoccurs : occurs key (filledBefore key replacements message) with
  | false => rfl
  | true =>
    rw [filledBefore, hfilled] at hoccurs
    obtain ⟨t, hwaiting, hstart⟩ := exists_waiting_of_occurs hkey
      (hshield.fill (writesNoColon_firstRule hplain)) hoccurs
    have hmessage := occurs_of_waiting (waiting_of_fill hwaiting) hstart
    rw [render_piecesOf, habsent] at hmessage
    cases hmessage

/-! ## Main statements -/

/-- **When a value is ignored.** Leaving a key out changes nothing if its placeholder does not occur
in the text before its pass, as long as its value has a text. If the placeholder does occur there, some
value of the key changes the result. Where no other value has a colon in any casing, and between two
colons of the message there is a character that no name can match, it is enough to look for the
placeholder in the message. A value without a text is not ignored. -/
theorem expand_erase {replacements : Replacements} {key : Text} {value : Value}
    (hkey : (key, value) ∈ replacements.entries) (message : Text) :
    (occurs key (filledBefore key replacements message) = false → key = [] ∨ value.HasText →
        expand message replacements = expand message (replacements.erase key)) ∧
      (key ≠ [] → HaveTexts (byLength (replacements.erase key)) →
        occurs key (filledBefore key replacements message) = true →
        ∃ text : Text, expand message (replacements.insert key (.text text)) ≠
          expand message (replacements.erase key)) ∧
      (occurs key message = false → PlainValues (replacements.erase key).entries →
        ColonsApart replacements.keys message →
        occurs key (filledBefore key replacements message) = false) ∧
      (key ≠ [] → ¬ value.HasText → expand message replacements = .error .unwritable) := by
  refine ⟨fun habsent htext => ?_, exists_value_shown hkey,
    not_occurs_filledBefore (List.mem_map_of_mem hkey), fun hne htext => ?_⟩
  · have hsame : fill message replacements = fill message (replacements.erase key) := by
      by_cases hne : key = []
      · -- the empty name has no pass
        have hpasses : byLength (replacements.erase key) = byLength replacements := by
          rw [byLength_erase, List.filter_eq_self]
          intro entry hentry
          simpa [hne] using (List.mem_filter.mp hentry).2
        rw [fill, fill, hpasses]
      · obtain ⟨after, hwith, _, hwithout⟩ := exists_passes hkey hne message
        rw [hwith, hwithout, substitute_of_not_occurs habsent]
    simp only [expand_eq, haveTexts_erase_iff hkey htext, hsame]
  · apply expand_of_not_haveTexts
    intro hall
    exact htext (hall _ (mem_byLength_iff.mpr ⟨hkey, hne⟩))

def greeting : Text := "Dear :Name and :friend".toList

/-- The note is not used in the greeting, though it has a colon itself. -/
def greetingReplacements : Replacements :=
  .ofList [("name".toList, .text "ann".toList), ("note".toList, .text ":name".toList)]

def nestedReplacements : Replacements :=
  .ofList [("a".toList, .text ":b".toList), ("b".toList, .text "x".toList)]

theorem expand_erase_greeting :
    ("note".toList, Value.text ":name".toList) ∈ greetingReplacements.entries ∧
      occurs "note".toList greeting = false ∧
      PlainValues (greetingReplacements.erase "note".toList).entries ∧
      ColonsApart greetingReplacements.keys greeting ∧
      expand greeting greetingReplacements =
        expand greeting (greetingReplacements.erase "note".toList) ∧
      ∃ text : Text, expand ":a".toList (nestedReplacements.insert "b".toList (.text text)) ≠
        expand ":a".toList (nestedReplacements.erase "b".toList) := by
  have hkey : ("note".toList, Value.text ":name".toList) ∈ greetingReplacements.entries :=
    List.mem_cons_of_mem _ List.mem_cons_self
  have habsent : occurs "note".toList greeting = false := by decide
  have hvalues : PlainValues (greetingReplacements.erase "note".toList).entries := by
    decide
  have hcolons : ColonsApart greetingReplacements.keys greeting := by
    have hspace : Blocks greetingReplacements.keys ' ' := blocks_of_all (by decide)
    have hinner : ∀ t ∈ (Text.fields sentinel greeting).tail.dropLast, ' ' ∈ t := by decide
    exact colonsApart_of_fields fun t ht => ⟨' ', hinner t ht, hspace⟩
  obtain ⟨hignored, _, hplain, _⟩ := expand_erase hkey greeting
  have hnested : ("b".toList, Value.text "x".toList) ∈ nestedReplacements.entries :=
    List.mem_cons_of_mem _ List.mem_cons_self
  have hshown := (expand_erase hnested ":a".toList).2.1
  exact ⟨hkey, habsent, hvalues, hcolons,
    hignored (hplain habsent hvalues hcolons) (.inr (Value.hasText_text _)),
    hshown (by decide) (by decide) (by decide +kernel)⟩

/-- The message has no placeholder for the second key, and yet its value is shown. -/
theorem expand_value_inside_value :
    "b".toList ∈ nestedReplacements.keys ∧ occurs "b".toList ":a".toList = false ∧
      expand ":a".toList nestedReplacements = .ok "x".toList ∧
      expand ":a".toList (nestedReplacements.erase "b".toList) = .ok ":b".toList := by
  decide +kernel

end Template
end Phrasebook
