import Phrasebook.Ranking.Merge

/-!
# Phrasebook.Ranking.Adaptive

A ranking that uses the order that is in a list already. The list is cut into runs, and neighbouring
runs are joined; which ones first, their lengths tell.

For a relation that is no order, such as the one on numbers among which some cannot be compared, the
result depends on which elements are compared when, so this is part of what `adaptive` means.
`perm_adaptive` says that also then nothing is lost.
-/

namespace Phrasebook
namespace Ranking

variable {α : Type}

/-! ## Runs -/

/-- The length of the longest start of a list in which all neighbours are related. -/
def runLength (related : α → α → Bool) : List α → Nat
  | [] => 0
  | [_] => 1
  | a :: b :: rest => if related a b then runLength related (b :: rest) + 1 else 1

/-- The length that runs are brought to: a list of this size is halved until less than 64 elements
are left, and an element that is lost on the way counts as one more. -/
def leastRun (size : Nat) (lost : Bool) : Nat :=
  if 64 ≤ size then leastRun (size / 2) (lost || size % 2 == 1) else size + lost.toNat
termination_by size

/-- The first run of a list as it is found, and the rest. A falling run is turned around, so only a
strictly falling one may be taken. -/
def foundRun (less : α → α → Bool) (xs : List α) : List α × List α :=
  let falling := runLength (fun a b => less b a) xs
  let rising := runLength (fun a b => !less b a) xs
  if 1 < falling then ((xs.take falling).reverse, xs.drop falling)
  else (xs.take rising, xs.drop rising)

/-- The first run of a list, brought to the least length by the elements behind it, and the rest. -/
def firstRun (less : α → α → Bool) (least : Nat) (xs : List α) : List α × List α :=
  let (run, rest) := foundRun less xs
  ((rest.take (least - run.length)).foldl (fun run x => insertByHalving less x run) run,
    rest.drop (least - run.length))

theorem runLength_pos (related : α → α → Bool) (x : α) (xs : List α) :
    0 < runLength related (x :: xs) := by
  cases xs with
  | nil => simp [runLength]
  | cons y rest =>
    simp only [runLength]
    split <;> omega

theorem perm_foundRun (less : α → α → Bool) (xs : List α) :
    ((foundRun less xs).1 ++ (foundRun less xs).2).Perm xs := by
  simp only [foundRun]
  split
  · refine ((List.reverse_perm _).append_right _).trans ?_
    rw [List.take_append_drop]
  · rw [List.take_append_drop]

theorem foundRun_ne_nil (less : α → α → Bool) (x : α) (xs : List α) :
    (foundRun less (x :: xs)).1 ≠ [] := by
  have hf := runLength_pos (fun a b => less b a) x xs
  have hr := runLength_pos (fun a b => !less b a) x xs
  simp only [foundRun]
  split
  · simp only [ne_eq, List.reverse_eq_nil_iff, List.take_eq_nil_iff, reduceCtorEq, or_false]
    omega
  · simp only [ne_eq, List.take_eq_nil_iff, reduceCtorEq, or_false]
    omega

theorem perm_foldl_insertByHalving (less : α → α → Bool) (xs run : List α) :
    (xs.foldl (fun run x => insertByHalving less x run) run).Perm (run ++ xs) := by
  induction xs generalizing run with
  | nil => simp
  | cons x rest ih =>
    refine (ih _).trans (((perm_insertByHalving less x run).append_right rest).trans ?_)
    exact List.perm_middle.symm

theorem perm_firstRun (less : α → α → Bool) (least : Nat) (xs : List α) :
    ((firstRun less least xs).1 ++ (firstRun less least xs).2).Perm xs := by
  refine List.Perm.trans ?_ (perm_foundRun less xs)
  simp only [firstRun]
  refine ((perm_foldl_insertByHalving less _ _).append_right _).trans ?_
  rw [List.append_assoc, List.take_append_drop]

theorem length_firstRun (less : α → α → Bool) (least : Nat) (x : α) (xs : List α) :
    (firstRun less least (x :: xs)).2.length < (x :: xs).length := by
  have hl := (perm_foundRun less (x :: xs)).length_eq
  have hp := List.length_pos_iff.mpr (foundRun_ne_nil less x xs)
  rw [List.length_append] at hl
  simp only [firstRun, List.length_drop]
  omega

/-- The runs of a list. -/
def runs (less : α → α → Bool) (least : Nat) : List α → List (List α)
  | [] => []
  | x :: xs => (firstRun less least (x :: xs)).1 :: runs less least (firstRun less least (x :: xs)).2
termination_by xs => xs.length
decreasing_by exact length_firstRun less least x xs

theorem perm_flatten_runs (less : α → α → Bool) (least : Nat) (xs : List α) :
    (runs less least xs).flatten.Perm xs := by
  fun_induction runs less least xs with
  | case1 => exact .refl _
  | case2 x xs ih =>
    rw [List.flatten_cons]
    exact (ih.append_left _).trans (perm_firstRun less least (x :: xs))

/-! ## Joining -/

/-- The depth of the boundary between two neighbouring runs of a list: the first binary digit in
which their middles differ, as fractions of the list. `before` is what stands before them. -/
def boundaryDepth (size before left right : Nat) : Nat :=
  let middle := 2 * before + left
  let next := middle + left + right
  ((List.range size).find? fun k => (middle <<< k) / size != (next <<< k) / size).getD size

/-- The runs that are not joined yet: the last one, and those before it from the back to the front,
each with the depth of the boundary behind it. -/
structure Pile (α : Type) where
  before : List (List α × Nat)
  last : List α
  patience : Nat

/-- The elements of a pile in the order of the list. -/
def Pile.all (pile : Pile α) : List α :=
  (pile.before.reverse.map (·.1)).flatten ++ pile.last

/-- Joins the last runs as long as their boundary is deeper than the one behind them. -/
def settle (less : α → α → Bool) (depth : Nat) :
    List (List α × Nat) → List α → Nat → Pile α
  | [], last, patience => ⟨[], last, patience⟩
  | (run, d) :: before, last, patience =>
    if depth < d then
      settle less depth before (join less patience run last).1 (join less patience run last).2
    else ⟨(run, d) :: before, last, patience⟩

/-- The pile with one more run, of a list of the given size. -/
def Pile.add (less : α → α → Bool) (size : Nat) (pile : Pile α) (run : List α) : Pile α :=
  let start := (pile.before.map (·.1)).flatten.length
  let depth := boundaryDepth size start pile.last.length run.length
  let settled := settle less depth pile.before pile.last pile.patience
  ⟨(settled.last, depth) :: settled.before, run, settled.patience⟩

/-- All runs of a pile joined, the last ones first. A run between two others is joined with the
shorter of them. -/
def finish (less : α → α → Bool) (before : List (List α × Nat)) (last : List α) (patience : Nat) :
    List α :=
  match before with
  | [] => last
  | [(run, _)] => (join less patience run last).1
  | (run, _) :: (earlier, d) :: rest =>
    if earlier.length < last.length then
      finish less (((join less patience earlier run).1, d) :: rest) last
        (join less patience earlier run).2
    else
      finish less ((earlier, d) :: rest) (join less patience run last).1
        (join less patience run last).2
termination_by before.length

theorem perm_settle (less : α → α → Bool) (depth : Nat) (before : List (List α × Nat))
    (last : List α) (patience : Nat) :
    (settle less depth before last patience).all.Perm (Pile.all ⟨before, last, patience⟩) := by
  induction before generalizing last patience with
  | nil => exact .refl _
  | cons entry before ih =>
    simp only [settle]
    split
    · refine (ih _ _).trans ?_
      simp only [Pile.all, List.reverse_cons, List.map_append, List.flatten_append, List.map_cons,
        List.map_nil, List.flatten_cons, List.flatten_nil, List.append_nil, List.append_assoc]
      exact (perm_join less patience _ _).append_left _
    · exact .refl _

theorem Pile.perm_add (less : α → α → Bool) (size : Nat) (pile : Pile α) (run : List α) :
    (pile.add less size run).all.Perm (pile.all ++ run) := by
  have h := perm_settle less
    (boundaryDepth size (pile.before.map (·.1)).flatten.length pile.last.length run.length)
    pile.before pile.last pile.patience
  simpa [Pile.add, Pile.all] using h.append_right run

theorem perm_finish (less : α → α → Bool) (before : List (List α × Nat)) (last : List α)
    (patience : Nat) :
    (finish less before last patience).Perm (Pile.all ⟨before, last, patience⟩) := by
  fun_induction finish less before last patience with
  | case1 => exact .refl _
  | case2 last patience run _ => simpa [Pile.all] using perm_join less patience run last
  | case3 last patience run _ earlier d rest _ ih =>
    refine ih.trans ?_
    simp only [Pile.all, List.reverse_cons, List.map_append, List.flatten_append, List.map_cons,
      List.map_nil, List.flatten_cons, List.flatten_nil, List.append_nil, List.append_assoc]
    refine List.Perm.append_left _ ?_
    rw [← List.append_assoc]
    exact (perm_join less patience _ _).append_right _
  | case4 last patience run _ earlier d rest _ ih =>
    refine ih.trans ?_
    simp only [Pile.all, List.reverse_cons, List.map_append, List.flatten_append, List.map_cons,
      List.map_nil, List.flatten_cons, List.flatten_nil, List.append_nil, List.append_assoc]
    exact ((perm_join less patience _ _).append_left _).append_left _

/-! ## Ranking -/

/-- The list ranked by rising elements. -/
def adaptive (less : α → α → Bool) (xs : List α) : List α :=
  match runs less (leastRun xs.length false) xs with
  | [] => []
  | run :: others =>
    let pile := others.foldl (Pile.add less xs.length) ⟨[], run, longStretch⟩
    finish less pile.before pile.last pile.patience

theorem perm_foldl_add (less : α → α → Bool) (size : Nat) (others : List (List α))
    (pile : Pile α) :
    (others.foldl (Pile.add less size) pile).all.Perm (pile.all ++ others.flatten) := by
  induction others generalizing pile with
  | nil => simp
  | cons run rest ih =>
    refine (ih _).trans ?_
    rw [List.flatten_cons, ← List.append_assoc]
    exact (pile.perm_add less size run).append_right _

theorem perm_adaptive (less : α → α → Bool) (xs : List α) : (adaptive less xs).Perm xs := by
  have h := perm_flatten_runs less (leastRun xs.length false) xs
  simp only [adaptive]
  split
  · rename_i hr
    rw [hr] at h
    exact h
  · rename_i run others hr
    rw [hr] at h
    refine (perm_finish less _ _ _).trans ((perm_foldl_add less xs.length others _).trans ?_)
    simpa [Pile.all] using h

end Ranking
end Phrasebook
