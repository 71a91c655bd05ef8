import Phrasebook.Proofs.Value
import Phrasebook.Template.Expansion

/-!
# Phrasebook.Proofs.Template.Texts

Filling in a message, apart from the question whether the values have a text.

* `passes`, `fill`: the passes with the texts that the values have.
* `expand_eq`: an expansion is that if every value has a text, and there is none otherwise. The value of
  the empty name has no pass, and no part in this.
-/

namespace Phrasebook
namespace Template

/-- The values have a text. -/
def HaveTexts (entries : List (Text × Value)) : Prop :=
  ∀ entry ∈ entries, entry.2.HasText

instance (entries : List (Text × Value)) : Decidable (HaveTexts entries) :=
  inferInstanceAs (Decidable (∀ _ ∈ _, _))

theorem haveTexts_cons {entry : Text × Value} {entries : List (Text × Value)} :
    HaveTexts (entry :: entries) ↔ entry.2.HasText ∧ HaveTexts entries :=
  List.forall_mem_cons

theorem haveTexts_append {first second : List (Text × Value)} :
    HaveTexts (first ++ second) ↔ HaveTexts first ∧ HaveTexts second :=
  List.forall_mem_append

/-- The passes for some names, one after another. -/
def passes (message : Text) (entries : List (Text × Value)) : Text :=
  entries.foldl (fun text entry => substitute text entry.1 entry.2.shown) message

@[simp]
theorem passes_cons (message : Text) (entry : Text × Value) (entries : List (Text × Value)) :
    passes message (entry :: entries) =
      passes (substitute message entry.1 entry.2.shown) entries :=
  rfl

@[simp]
theorem passes_append (message : Text) (first second : List (Text × Value)) :
    passes message (first ++ second) = passes (passes message first) second :=
  List.foldl_append

/-- The message with its placeholders filled in. -/
def fill (message : Text) (replacements : Replacements) : Text :=
  passes message (byLength replacements)

theorem foldlM_substitute (message : Text) (entries : List (Text × Value)) :
    entries.foldlM (fun text entry => entry.2.toText.map (substitute text entry.1)) message =
      if HaveTexts entries then .ok (passes message entries) else .error .unwritable := by
  induction entries generalizing message with
  | nil => rfl
  | cons entry entries ih =>
    rw [List.foldlM_cons, entry.2.toText_eq]
    by_cases htext : entry.2.HasText
    · rw [if_pos htext]
      show entries.foldlM _ (substitute message entry.1 entry.2.shown) = _
      simp only [ih, haveTexts_cons, htext, true_and, passes_cons]
    · have hnone : ¬ HaveTexts (entry :: entries) := fun h => htext (haveTexts_cons.mp h).1
      rw [if_neg htext, if_neg hnone]
      rfl

theorem expand_eq (message : Text) (replacements : Replacements) :
    expand message replacements =
      if HaveTexts (byLength replacements) then .ok (fill message replacements)
      else .error .unwritable :=
  foldlM_substitute message (byLength replacements)

theorem expand_of_haveTexts {replacements : Replacements} (h : HaveTexts (byLength replacements))
    (message : Text) : expand message replacements = .ok (fill message replacements) :=
  (expand_eq message replacements).trans (if_pos h)

theorem expand_of_not_haveTexts {replacements : Replacements}
    (h : ¬ HaveTexts (byLength replacements)) (message : Text) :
    expand message replacements = .error .unwritable :=
  (expand_eq message replacements).trans (if_neg h)

theorem mem_byLength_iff {replacements : Replacements} {entry : Text × Value} :
    entry ∈ byLength replacements ↔ entry ∈ replacements.entries ∧ entry.1 ≠ [] := by
  rw [byLength, List.mem_filter, (Ranking.perm_ranked _ _).mem_iff, decide_eq_true_iff]

theorem mem_entries_of_mem_byLength {replacements : Replacements} {entry : Text × Value}
    (h : entry ∈ byLength replacements) : entry ∈ replacements.entries :=
  (mem_byLength_iff.mp h).1

end Template
end Phrasebook
