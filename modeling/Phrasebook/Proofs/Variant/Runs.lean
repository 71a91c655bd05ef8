import Mathlib.Data.List.SplitBy
import Phrasebook.Proofs.Variant.Writing

/-!
# Phrasebook.Proofs.Variant.Runs

The segments of a message, told by its runs. A message is a sequence of maximal runs, of separators
and of other characters by turns. A run of one separator divides segments; a longer run of
separators is halved, an odd one being rounded up; all other runs stay as they are.

* `Alternating`: what the runs of a message look like, one after another (`alternating_runs`).
* `segments_others_append`, `segments_lone`, `segments_separators_append`: what each sort of run
  does to the segments of the text behind it.

`segments_eq_runs` puts them together, and counts the segments.
-/

namespace Phrasebook
namespace Variant

/-- Whether two neighbours belong to one run: both are separators, or none is. -/
def sameSort (c d : Char) : Bool :=
  (c == separator) == (d == separator)

/-- The maximal runs of a message, of separators and of other characters by turns. -/
def runs (message : Text) : List Text :=
  message.splitBy sameSort

/-- What a run is in a segment: one separator for two, and one for the last if it is left over. -/
def shownRun (run : Text) : Text :=
  if run.head? = some separator then List.replicate ((run.length + 1) / 2) separator else run

/-! ## Runs -/

/-- Runs of which none is mixed and no two of separators are neighbours. -/
inductive Alternating : List Text → Prop where
  | nil : Alternating []
  | others {run : Text} {rest : List Text} :
      separator ∉ run → Alternating rest → Alternating (run :: rest)
  | separators {n : Nat} {rest : List Text} :
      rest.flatten.head? ≠ some separator → Alternating rest →
      Alternating (List.replicate (n + 1) separator :: rest)

theorem sort_of_isChain {run : Text} (h : run.IsChain fun c d => sameSort c d) :
    separator ∉ run ∨ ∀ c ∈ run, c = separator := by
  induction run with
  | nil => simp
  | cons c run ih =>
    rw [List.isChain_cons] at h
    obtain ⟨hhead, hrest⟩ := h
    cases run with
    | nil =>
      by_cases hc : c = separator
      · exact .inr (by simpa using hc)
      · exact .inl (by simpa using Ne.symm hc)
    | cons d run =>
      have hsame : (c == separator) = (d == separator) := by simpa [sameSort] using hhead
      rcases ih hrest with hnone | hall
      · have hd : d ≠ separator := fun hd => hnone (by simp [hd])
        have hc : c ≠ separator := by simpa [hd] using hsame
        exact .inl (by simpa [Ne.symm hc] using hnone)
      · have hc : c = separator := by simpa [hall d List.mem_cons_self] using hsame
        exact .inr (List.forall_mem_cons.mpr ⟨hc, hall⟩)

theorem alternating_of_isChain {groups : List Text} (hne : [] ∉ groups)
    (hsort : ∀ run ∈ groups, run.IsChain fun c d => sameSort c d)
    (hnext : groups.IsChain fun a b => ∃ ha hb, sameSort (a.getLast ha) (b.head hb) = false) :
    Alternating groups := by
  induction groups with
  | nil => exact .nil
  | cons run rest ih =>
    rw [List.isChain_cons] at hnext
    simp only [List.mem_cons, not_or] at hne
    obtain ⟨hrun, hsortRest⟩ := List.forall_mem_cons.mp hsort
    have hrest : Alternating rest := ih hne.2 hsortRest hnext.2
    rcases sort_of_isChain hrun with hnone | hall
    · exact .others hnone hrest
    · have hlen : 0 < run.length := List.length_pos_iff.mpr (Ne.symm hne.1)
      obtain ⟨n, hn⟩ := Nat.exists_eq_add_one.mpr hlen
      rw [List.eq_replicate_of_mem hall, hn]
      refine .separators ?_ hrest
      intro hhead
      cases rest with
      | nil => cases hhead
      | cons next rest =>
        obtain ⟨hne', hnext', hdiff⟩ := hnext.1 next (by simp)
        have hlast : run.getLast hne' = separator := hall _ (List.getLast_mem hne')
        have hfirst : next.head hnext' = separator := by
          simpa [List.head?_append, List.head?_eq_some_head hnext'] using hhead
        simp [sameSort, hlast, hfirst] at hdiff

theorem flatten_runs (message : Text) : (runs message).flatten = message :=
  List.flatten_splitBy sameSort message

theorem alternating_runs (message : Text) : Alternating (runs message) :=
  alternating_of_isChain (List.nil_notMem_splitBy _ _) (fun _ => List.isChain_of_mem_splitBy)
    (List.isChain_getLast_head_splitBy _ _)

/-! ## Segments behind a run -/

theorem consFirst_eq_modifyHead (c : Char) {parts : List Text} (h : parts ≠ []) :
    consFirst c parts = parts.modifyHead (c :: ·) := by
  cases parts with
  | nil => exact absurd rfl h
  | cons part parts => rfl

theorem cutAtLone_of_head?_ne (afterSeparator : Bool) {t : Text}
    (h : t.head? ≠ some separator) : cutAtLone afterSeparator t = cutAtLone false t := by
  cases t with
  | nil => rfl
  | cons c t =>
    have hc : c ≠ separator := by simpa using h
    simp [cutAtLone, hc]

theorem segments_cons_of_ne {c : Char} (h : c ≠ separator) (t : Text) :
    segments (c :: t) = (segments t).modifyHead (c :: ·) := by
  obtain ⟨part, parts, hcut⟩ := List.exists_cons_of_ne_nil (cutAtLone_ne_nil false t)
  simp [segments, cutAtLone, h, hcut, consFirst]

theorem segments_others_append {run : Text} (h : separator ∉ run) (t : Text) :
    segments (run ++ t) = (segments t).modifyHead (run ++ ·) := by
  induction run with
  | nil => cases hs : segments t <;> simp [hs]
  | cons c run ih =>
    simp only [List.mem_cons, not_or] at h
    rw [List.cons_append, segments_cons_of_ne (Ne.symm h.1), ih h.2, List.modifyHead_modifyHead]
    rfl

theorem segments_lone {t : Text} (h : t.head? ≠ some separator) :
    segments (separator :: t) = [] :: segments t := by
  have hcut : cutAtLone false (separator :: t) = [] :: cutAtLone true t := by
    simp [cutAtLone, h]
  rw [segments, hcut, cutAtLone_of_head?_ne true h]
  rfl

theorem cutAtLone_separators_append (n : Nat) {t : Text} (h : t.head? ≠ some separator) :
    cutAtLone true (List.replicate n separator ++ t) =
      (cutAtLone false t).modifyHead (List.replicate n separator ++ ·) := by
  have hne := cutAtLone_ne_nil false t
  induction n with
  | zero =>
    rw [List.replicate_zero, List.nil_append, cutAtLone_of_head?_ne true h]
    cases hcut : cutAtLone false t <;> simp
  | succ n ih =>
    rw [List.replicate_succ, List.cons_append]
    simp only [cutAtLone, if_true, Bool.not_true, Bool.false_and, Bool.false_eq_true, if_false]
    rw [consFirst_eq_modifyHead _ (cutAtLone_ne_nil true _), ih, List.modifyHead_modifyHead]
    rfl

theorem undouble_separators_append (n : Nat) {t : Text} (h : t.head? ≠ some separator) :
    undouble (List.replicate n separator ++ t) =
      List.replicate ((n + 1) / 2) separator ++ undouble t := by
  induction n using Nat.twoStepInduction with
  | zero => rfl
  | one =>
    cases t with
    | nil => rfl
    | cons d t =>
      have hd : d ≠ separator := by simpa using h
      simp [undouble, hd]
  | more n ih _ =>
    have hhalf : (n + 2 + 1) / 2 = (n + 1) / 2 + 1 := by omega
    rw [hhalf]
    simp only [List.replicate_succ, List.cons_append, undouble_separators, ih]

theorem segments_separators_append (n : Nat) {t : Text} (h : t.head? ≠ some separator) :
    segments (List.replicate (n + 2) separator ++ t) =
      (segments t).modifyHead (List.replicate ((n + 2 + 1) / 2) separator ++ ·) := by
  have hcut : cutAtLone false (List.replicate (n + 2) separator ++ t) =
      (cutAtLone false t).modifyHead (List.replicate (n + 2) separator ++ ·) := by
    have hnotLone : (List.replicate (n + 1) separator ++ t).head? = some separator := rfl
    rw [List.replicate_succ, List.cons_append]
    simp only [cutAtLone, if_true, hnotLone, bne_self_eq_false, Bool.and_false,
      Bool.false_eq_true, if_false]
    rw [consFirst_eq_modifyHead _ (cutAtLone_ne_nil true _), cutAtLone_separators_append (n + 1) h,
      List.modifyHead_modifyHead]
    rfl
  obtain ⟨part, parts, hparts, _, _, hhead⟩ := separable_cutAtLone false t
  have hpart : part.head? ≠ some separator := fun hp => h (hhead separator hp)
  rw [segments, hcut, segments, hparts]
  simp [undouble_separators_append (n + 2) hpart]

/-! ## All runs -/

theorem length_splitOn (x : Text) (l : List Text) : (l.splitOn x).length = l.count x + 1 := by
  induction l with
  | nil => simp
  | cons y l ih =>
    rw [List.splitOn_cons_eq_if_modifyHead, List.count_cons]
    split <;> simp [ih]

theorem map_splitOn_cons {run : Text} (h : run ≠ [separator]) (rest : List Text) :
    ((run :: rest).splitOn [separator]).map (List.flatMap shownRun) =
      ((rest.splitOn [separator]).map (List.flatMap shownRun)).modifyHead (shownRun run ++ ·) := by
  rw [List.splitOn_cons_eq_if_modifyHead, if_neg (by simpa using h)]
  cases hsplit : rest.splitOn [separator] with
  | nil => rfl
  | cons part parts => simp

theorem segments_flatten {groups : List Text} (h : Alternating groups) :
    segments groups.flatten = (groups.splitOn [separator]).map (List.flatMap shownRun) := by
  -- On the runs. Only at a run of one separator is there a cut on either side.
  induction h with
  | nil => rfl
  | @others run rest hrun _ ih =>
    have hne : run ≠ [separator] := by
      rintro rfl
      simp at hrun
    have hshown : shownRun run = run := if_neg fun hhead => hrun (List.mem_of_head? hhead)
    rw [List.flatten_cons, segments_others_append hrun, ih, map_splitOn_cons hne, hshown]
  | @separators n rest hnext _ ih =>
    rw [List.flatten_cons]
    cases n with
    | zero =>
      have hsplit : (List.replicate 1 separator :: rest).splitOn [separator] =
          [] :: rest.splitOn [separator] := by
        rw [List.splitOn_cons_eq_if_modifyHead]
        rfl
      rw [hsplit, List.map_cons, ← ih]
      exact segments_lone hnext
    | succ n =>
      have hne : List.replicate (n + 2) separator ≠ [separator] := by
        intro he
        simpa using congrArg List.length he
      have hshown : shownRun (List.replicate (n + 2) separator) =
          List.replicate ((n + 2 + 1) / 2) separator := by
        simp [shownRun, List.replicate_succ]
      rw [segments_separators_append n hnext, ih, map_splitOn_cons hne, hshown]

/-- **Segments from runs.** The runs of one separator divide the segments, so there is one segment
more than there are of these. A segment is the runs between two of them, where `n` separators have
become `(n + 1) / 2`, and other characters are as they were. -/
theorem segments_eq_runs (message : Text) :
    segments message = ((runs message).splitOn [separator]).map (List.flatMap shownRun) ∧
      (segments message).length = (runs message).count [separator] + 1 := by
  have hruns := segments_flatten (alternating_runs message)
  rw [flatten_runs] at hruns
  refine ⟨hruns, ?_⟩
  rw [hruns, List.length_map, length_splitOn]

example : segments "|||a||b|c".toList = ["||a|b".toList, "c".toList] := by
  decide

end Variant
end Phrasebook
