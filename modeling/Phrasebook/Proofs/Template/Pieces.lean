import Phrasebook.Proofs.Template.Texts

/-!
# Phrasebook.Proofs.Template.Pieces

A message as a list of pieces: texts that are settled, and placeholders that may still wait for their
value. A pass over the message settles pieces and leaves their number and order alone.

* `Shielded`: no piece has a colon inside, and every waiting piece but the last has a character that
  no name can match, so no name reaches into the piece after it.
* `scan_render`: on shielded pieces, a pass works on each piece for itself.
* `passes_render`: passes one after another settle each piece by the first name that fits.
-/

namespace Phrasebook
namespace Template

open Unicode

/-- A part of a message. A waiting piece is a colon and the text up to the next piece. -/
inductive Piece where
  | settled (t : Text)
  | waiting (t : Text)
deriving DecidableEq, Repr

def Piece.text : Piece → Text
  | settled t => t
  | waiting t => sentinel :: t

/-- The message that is made of the pieces. -/
def render (pieces : List Piece) : Text :=
  pieces.flatMap Piece.text

/-- What a rule says at a colon. -/
abbrev Rule := Text → Option (Nat × Text)

/-- The piece after a pass with a rule. -/
def Piece.fill (rule : Rule) : Piece → Piece
  | settled t => settled t
  | waiting t =>
    match rule t with
    | some (length, value) => settled (value ++ t.drop length)
    | none => waiting t

/-- No character of the names matches `c`. -/
def Blocks (names : List Text) (c : Char) : Prop :=
  ∀ name ∈ names, ∀ k ∈ name, standsFor k c = false

/-- Pieces that no name leads out of. -/
inductive Shielded (names : List Text) : List Piece → Prop where
  | nil : Shielded names []
  | settled {t : Text} {pieces : List Piece} :
      sentinel ∉ t → Shielded names pieces → Shielded names (.settled t :: pieces)
  | last {t : Text} : sentinel ∉ t → Shielded names [.waiting t]
  | waiting {t : Text} {pieces : List Piece} :
      sentinel ∉ t → (∃ c ∈ t, Blocks names c) → Shielded names pieces →
      Shielded names (.waiting t :: pieces)

/-- A rule that looks no further than the first character that blocks the names, and takes no more
than there is. -/
structure Confined (names : List Text) (rule : Rule) : Prop where
  rule_append : ∀ t rest, (∃ c ∈ t, Blocks names c) → rule (t ++ rest) = rule t
  length_le : ∀ t length value, rule t = some (length, value) → length ≤ t.length

/-- A rule that writes no colons. -/
def WritesNoColon (rule : Rule) : Prop :=
  ∀ t length value, rule t = some (length, value) → sentinel ∉ value

/-! ## One pass -/

theorem scan_append_of_no_colon (rule : Rule) {t : Text} (h : sentinel ∉ t) (rest : Text) :
    scan rule 0 (t ++ rest) = t ++ scan rule 0 rest := by
  induction t with
  | nil => rfl
  | cons c t ih =>
    simp only [List.mem_cons, not_or] at h
    simp [Ne.symm h.1, ih h.2]

theorem not_mem_drop {t : Text} (h : sentinel ∉ t) (n : Nat) : sentinel ∉ t.drop n :=
  fun hmem => h (List.mem_of_mem_drop hmem)

@[simp]
theorem render_cons (piece : Piece) (pieces : List Piece) :
    render (piece :: pieces) = piece.text ++ render pieces :=
  List.flatMap_cons

/-- A pass at a waiting piece, before a text that the rule does not look at. -/
theorem scan_waiting {rule : Rule} {t : Text} (ht : sentinel ∉ t) {rest : Text}
    (hrule : rule (t ++ rest) = rule t)
    (hlen : ∀ length value, rule t = some (length, value) → length ≤ t.length) :
    scan rule 0 (sentinel :: (t ++ rest)) =
      ((Piece.waiting t).fill rule).text ++ scan rule 0 rest := by
  cases h : rule t with
  | none => simp [hrule, h, Piece.fill, Piece.text, scan_append_of_no_colon rule ht]
  | some found =>
    obtain ⟨length, value⟩ := found
    have hle := hlen length value h
    simp only [Piece.fill, Piece.text, h]
    rw [scan_sentinel_of_some (hrule.trans h), scan_skip, List.drop_append_of_le_length hle,
      scan_append_of_no_colon rule (not_mem_drop ht length), List.append_assoc]

/-- A pass over shielded pieces works on each of them for itself. -/
theorem scan_render {names : List Text} {rule : Rule} (hrule : Confined names rule)
    {pieces : List Piece} (h : Shielded names pieces) :
    scan rule 0 (render pieces) = render (pieces.map (Piece.fill rule)) := by
  induction h with
  | nil => rfl
  | settled ht _ ih =>
    rw [render_cons, List.map_cons, render_cons, ← ih]
    exact scan_append_of_no_colon rule ht _
  | @last t ht =>
    have hnil : rule (t ++ []) = rule t := by rw [List.append_nil]
    have h := scan_waiting ht hnil (hrule.length_le t)
    simpa [render, Piece.text] using h
  | @waiting t pieces ht hblock _ ih =>
    rw [render_cons, List.map_cons, render_cons, ← ih]
    exact scan_waiting ht (hrule.rule_append t _ hblock) (hrule.length_le t)

/-- What a pass settles has no colon, and what it leaves waiting is as it was. -/
theorem Shielded.fill {names : List Text} {rule : Rule} (hrule : WritesNoColon rule)
    {pieces : List Piece} (h : Shielded names pieces) :
    Shielded names (pieces.map (Piece.fill rule)) := by
  have settles : ∀ {t : Text} {length : Nat} {value : Text}, sentinel ∉ t →
      rule t = some (length, value) → sentinel ∉ value ++ t.drop length := by
    intro t length value ht hvalue hmem
    rcases List.mem_append.mp hmem with hmem | hmem
    · exact hrule t length value hvalue hmem
    · exact not_mem_drop ht length hmem
  induction h with
  | nil => exact .nil
  | settled ht _ ih => exact .settled ht ih
  | @last t ht =>
    simp only [List.map_cons, List.map_nil, Piece.fill]
    split
    · exact .settled (settles ht (by assumption)) .nil
    · exact .last ht
  | @waiting t pieces ht hblock _ ih =>
    simp only [List.map_cons, Piece.fill]
    split
    · exact .settled (settles ht (by assumption)) ih
    · exact .waiting ht hblock ih

/-! ## The rules of names -/

/-- A name does not reach over a character that blocks it. -/
theorem startsWith_append_cons {name : Text} {c : Char} (h : ∀ k ∈ name, standsFor k c = false)
    (t rest : Text) : startsWith name (t ++ c :: rest) = startsWith name t := by
  induction name generalizing t with
  | nil => simp [startsWith]
  | cons k name ih =>
    have hname : ∀ j ∈ name, standsFor j c = false := fun j hj => h j (List.mem_cons_of_mem k hj)
    cases t with
    | nil => simp [startsWith, h k List.mem_cons_self]
    | cons d t => rw [List.cons_append, startsWith, startsWith, ih hname]

/-- A name is found before the first character that blocks it, or not at all. -/
theorem startsWith_append {name t : Text} (h : ∃ c ∈ t, ∀ k ∈ name, standsFor k c = false)
    (rest : Text) : startsWith name (t ++ rest) = startsWith name t := by
  obtain ⟨c, hc, hblock⟩ := h
  obtain ⟨before, after, rfl⟩ := List.append_of_mem hc
  rw [List.append_assoc, List.cons_append, startsWith_append_cons hblock,
    startsWith_append_cons hblock]

theorem length_le_of_startsWith {name t : Text} (h : startsWith name t = true) :
    name.length ≤ t.length := by
  induction name generalizing t with
  | nil => simp
  | cons k name ih =>
    cases t with
    | nil => simp [startsWith] at h
    | cons c t =>
      simp only [startsWith, Bool.and_eq_true] at h
      have := ih h.2
      simp only [List.length_cons]
      omega

theorem nameRule_eq_some {name value t v : Text} {n : Nat}
    (h : nameRule name value t = some (n, v)) :
    startsWith name t = true ∧ n = name.length ∧
      v = (Casing.ofToken (sentinel :: t.take name.length)).apply value := by
  simp only [nameRule] at h
  split at h
  · rename_i hs
    cases h
    exact ⟨hs, rfl, rfl⟩
  · cases h

theorem nameRule_append_cons {name : Text} {c : Char} (h : ∀ k ∈ name, standsFor k c = false)
    (value t rest : Text) : nameRule name value (t ++ c :: rest) = nameRule name value t := by
  simp only [nameRule, startsWith_append_cons h]
  split
  · rename_i hs
    rw [List.take_append_of_le_length (length_le_of_startsWith hs)]
  · rfl

theorem confined_nameRule {names : List Text} {name : Text} (hname : name ∈ names)
    (value : Text) : Confined names (nameRule name value) where
  rule_append t rest hblock := by
    obtain ⟨c, hc, hblock⟩ := hblock
    obtain ⟨before, after, rfl⟩ := List.append_of_mem hc
    rw [List.append_assoc, List.cons_append, nameRule_append_cons (hblock name hname),
      nameRule_append_cons (hblock name hname)]
  length_le t length v h := by
    obtain ⟨hs, rfl, _⟩ := nameRule_eq_some h
    exact length_le_of_startsWith hs

/-- No casing of the value has a colon. -/
def PlainText (value : Text) : Prop :=
  sentinel ∉ value ∧ sentinel ∉ Text.upper value ∧ sentinel ∉ Text.capitalize value

theorem PlainText.apply {value : Text} (h : PlainText value) (casing : Casing) :
    sentinel ∉ casing.apply value := by
  cases casing with
  | upper => exact h.2.1
  | title => exact h.2.2
  | verbatim => exact h.1

/-- The texts of the values have no colon in any casing. -/
def PlainValues (entries : List (Text × Value)) : Prop :=
  ∀ entry ∈ entries, ∀ text, entry.2.toText = .ok text → PlainText text

theorem plainValues_iff {entries : List (Text × Value)} :
    PlainValues entries ↔ ∀ entry ∈ entries, PlainText entry.2.shown := by
  constructor
  · intro h entry hentry
    by_cases htext : entry.2.HasText
    · exact h entry hentry _ (Value.toText_eq_ok_iff.mpr ⟨htext, rfl⟩)
    · rw [Value.shown_of_not_hasText htext]
      simp [PlainText, Text.upper, Text.capitalize]
  · intro h entry hentry text htext
    rw [← (Value.toText_eq_ok_iff.mp htext).2]
    exact h entry hentry

instance (entries : List (Text × Value)) : Decidable (PlainValues entries) :=
  decidable_of_iff (∀ entry ∈ entries, sentinel ∉ entry.2.shown ∧
    sentinel ∉ Text.upper entry.2.shown ∧ sentinel ∉ Text.capitalize entry.2.shown)
    plainValues_iff.symm

theorem PlainValues.mono {entries fewer : List (Text × Value)} (h : PlainValues entries)
    (hfewer : ∀ entry ∈ fewer, entry ∈ entries) : PlainValues fewer :=
  fun entry hentry => h entry (hfewer entry hentry)

theorem writesNoColon_nameRule (name : Text) {value : Text} (h : PlainText value) :
    WritesNoColon (nameRule name value) := by
  intro t length v hv
  obtain ⟨_, _, rfl⟩ := nameRule_eq_some hv
  exact h.apply _

/-! ## Passes one after another -/

/-- The rule of the first of several names that fits. -/
def firstRule (entries : List (Text × Value)) : Rule :=
  fun t => entries.findSome? fun entry => nameRule entry.1 entry.2.shown t

theorem fill_fill (piece : Piece) (first second : Rule) :
    (piece.fill first).fill second = piece.fill fun t => (first t).or (second t) := by
  cases piece with
  | settled t => rfl
  | waiting t =>
    cases h : first t with
    | none => simp [Piece.fill, h]
    | some found => simp [Piece.fill, h]

theorem fill_firstRule_cons (piece : Piece) (entry : Text × Value)
    (entries : List (Text × Value)) :
    piece.fill (firstRule (entry :: entries)) =
      (piece.fill (nameRule entry.1 entry.2.shown)).fill (firstRule entries) := by
  rw [fill_fill]
  congr 1
  funext t
  simp only [firstRule, List.findSome?_cons]
  cases nameRule entry.1 entry.2.shown t <;> rfl

/-- Passes one after another settle each piece by the first name that fits it. The pieces stay
shielded, so each pass still finds at a waiting colon what stood there at first. -/
theorem passes_render {names : List Text} {entries : List (Text × Value)}
    (hnames : ∀ entry ∈ entries, entry.1 ∈ names)
    (hvalues : PlainValues entries) {pieces : List Piece}
    (h : Shielded names pieces) :
    passes (render pieces) entries = render (pieces.map (Piece.fill (firstRule entries))) := by
  induction entries generalizing pieces with
  | nil =>
    have hfill : Piece.fill (firstRule []) = id := by
      funext piece
      cases piece <;> rfl
    rw [hfill, List.map_id]
    rfl
  | cons entry entries ih =>
    have hpass : substitute (render pieces) entry.1 entry.2.shown =
        render (pieces.map (Piece.fill (nameRule entry.1 entry.2.shown))) :=
      scan_render (confined_nameRule (hnames entry (by simp)) _) h
    have hentry := plainValues_iff.mp hvalues entry List.mem_cons_self
    have hshield := h.fill (writesNoColon_nameRule entry.1 hentry)
    rw [passes_cons, hpass, ih (fun e he => hnames e (by simp [he]))
      (fun e he => hvalues e (by simp [he])) hshield, List.map_map]
    congr 1
    apply List.map_congr_left
    intro piece _
    exact (fill_firstRule_cons piece entry entries).symm

end Template
end Phrasebook
