import Phrasebook.Ranking.Search

/-!
# Phrasebook.Ranking.Merge

Merging two neighbouring runs of a list. Elements are taken one by one until one of the runs wins many
times in a row; from then on whole stretches of them are taken, found by `gallop`, until the stretches
get short. How many wins are needed is the patience, which goes up and down with what is met.

* `merge`: two runs of which the second has the first element and the first has the last one.
* `join`: any two neighbouring runs. What stands at its place already is left there, and the shorter of
  the rests is merged into the longer one, from the front or from the back.
* `perm_join`: nothing is lost.
-/

namespace Phrasebook
namespace Ranking

variable {α : Type}

/-- The length from which on a stretch is long, and the patience at first. -/
def longStretch : Nat := 7

/-- What is merged and what is left of the two runs. -/
structure Cut (α : Type) where
  merged : List α
  first : List α
  second : List α

namespace Cut

/-- All elements of a cut. -/
def all (cut : Cut α) : List α :=
  cut.merged ++ (cut.first ++ cut.second)

/-- Whether there is something left to compare: the last element of the first run is also the last
one of all. -/
def isOpen (cut : Cut α) : Bool :=
  1 < cut.first.length && !cut.second.isEmpty

end Cut

/-- The way of a merge. -/
structure Merging (α : Type) where
  /-- Whether `b` of the second run goes before `a` of the first. -/
  secondFirst : α → α → Bool
  middle : Middle
  /-- Whether it is the first run that gives the first stretch of a round. -/
  firstLeads : Bool

namespace Merging

/-- A stretch of the first run and the element of the second that ends it; the length of the stretch
comes with it. -/
def firstStretch (way : Merging α) (first second : List α) : Cut α × Nat :=
  match second with
  | [] => (⟨[], first, []⟩, 0)
  | b :: rest =>
    let n := gallop way.middle (fun a => !way.secondFirst b a) first
    if 1 < (first.drop n).length then (⟨first.take n ++ [b], first.drop n, rest⟩, n)
    else (⟨first.take n, first.drop n, b :: rest⟩, n)

/-- A stretch of the second run and the element of the first that ends it, with the length of the
stretch. -/
def secondStretch (way : Merging α) (first second : List α) : Cut α × Nat :=
  match first with
  | [] => (⟨[], [], second⟩, 0)
  | a :: rest =>
    let n := gallop way.middle (fun b => way.secondFirst b a) second
    if (second.drop n).isEmpty then (⟨second.take n, a :: rest, []⟩, n)
    else (⟨second.take n ++ [a], rest, second.drop n⟩, n)

/-- The stretch that opens a round. -/
def lead (way : Merging α) (first second : List α) : Cut α × Nat :=
  if way.firstLeads then way.firstStretch first second else way.secondStretch first second

/-- The stretch that closes a round. -/
def follow (way : Merging α) (first second : List α) : Cut α × Nat :=
  if way.firstLeads then way.secondStretch first second else way.firstStretch first second

/-- A stretch of each run, and whether one of them was long. -/
def round (way : Merging α) (first second : List α) : Cut α × Bool :=
  let (cut, n) := way.lead first second
  if cut.isOpen then
    let (next, k) := way.follow cut.first cut.second
    (⟨cut.merged ++ next.merged, next.first, next.second⟩, longStretch ≤ n || longStretch ≤ k)
  else (cut, false)

theorem perm_firstStretch (way : Merging α) (first second : List α) :
    (way.firstStretch first second).1.all.Perm (first ++ second) := by
  cases second with
  | nil => simp [firstStretch, Cut.all]
  | cons b rest =>
    simp only [firstStretch]
    generalize gallop _ _ _ = n
    split
    · simp only [Cut.all, List.append_assoc]
      conv => rhs; rw [← List.take_append_drop n first, List.append_assoc]
      rw [List.singleton_append]
      exact List.perm_middle.symm.append_left _
    · simp [Cut.all, ← List.append_assoc]

theorem perm_secondStretch (way : Merging α) (first second : List α) :
    (way.secondStretch first second).1.all.Perm (first ++ second) := by
  cases first with
  | nil => simp [secondStretch, Cut.all]
  | cons a rest =>
    simp only [secondStretch]
    generalize gallop _ _ _ = n
    have front : (second.take n ++ (a :: rest ++ second.drop n)).Perm (a :: rest ++ second) := by
      conv => rhs; rw [← List.take_append_drop n second]
      rw [← List.append_assoc, ← List.append_assoc]
      exact List.perm_append_comm.append_right _
    split
    · rename_i h
      rw [List.isEmpty_iff.mp h] at front
      exact front
    · simpa [Cut.all] using front

theorem perm_lead (way : Merging α) (first second : List α) :
    (way.lead first second).1.all.Perm (first ++ second) := by
  simp only [lead]
  split
  · exact way.perm_firstStretch first second
  · exact way.perm_secondStretch first second

theorem perm_follow (way : Merging α) (first second : List α) :
    (way.follow first second).1.all.Perm (first ++ second) := by
  simp only [follow]
  split
  · exact way.perm_secondStretch first second
  · exact way.perm_firstStretch first second

theorem perm_round (way : Merging α) (first second : List α) :
    (way.round first second).1.all.Perm (first ++ second) := by
  refine List.Perm.trans ?_ (way.perm_lead first second)
  simp only [round]
  split
  · simp only [Cut.all, List.append_assoc]
    exact (way.perm_follow _ _).append_left _
  · exact .refl _

/-- A round after which something is left has merged something. -/
theorem merged_ne_nil_of_isOpen (way : Merging α) {first second : List α}
    (h : (way.round first second).1.isOpen = true) :
    (way.round first second).1.merged ≠ [] := by
  have led : (way.lead first second).1.isOpen = true → (way.lead first second).1.merged ≠ [] := by
    simp only [lead]
    split
    · cases second with
      | nil => simp [firstStretch, Cut.isOpen]
      | cons b rest =>
        simp only [firstStretch]
        split
        · simp
        · rename_i hn
          intro ho
          simp only [Cut.isOpen, Bool.and_eq_true, decide_eq_true_eq] at ho
          exact absurd ho.1 hn
    · cases first with
      | nil => simp [secondStretch, Cut.isOpen]
      | cons a rest =>
        simp only [secondStretch]
        split
        · simp [Cut.isOpen]
        · simp
  simp only [round] at h ⊢
  split at h
  · rename_i ho
    simp [ho, led ho]
  · rename_i ho
    exact absurd h ho

theorem length_lt_of_isOpen (way : Merging α) {first second : List α}
    (h : (way.round first second).1.isOpen = true) :
    (way.round first second).1.first.length + (way.round first second).1.second.length <
      first.length + second.length := by
  have hl := (way.perm_round first second).length_eq
  have hm := List.length_pos_iff.mpr (way.merged_ne_nil_of_isOpen h)
  simp only [Cut.all, List.length_append] at hl
  omega

end Merging

/-- Elements are taken one by one, where it counts how often each run has won in a row, or by
stretches. -/
inductive Pace where
  | steps (firstWins secondWins : Nat)
  | stretches
deriving DecidableEq, Repr

/-- The pace after so many wins in a row. -/
def Pace.after (patience wins : Nat) (steps : Pace) : Pace :=
  if patience ≤ wins then stretches else steps

/-- What is left of two runs merged, with the patience that is left. -/
def mergeRest (way : Merging α) (pace : Pace) (patience : Nat) (first second : List α) :
    List α × Nat :=
  match first, second with
  | a :: a' :: as, b :: bs =>
    match pace with
    | .steps firstWins secondWins =>
      if way.secondFirst b a then
        let (rest, left) :=
          mergeRest way (.after patience (secondWins + 1) (.steps 0 (secondWins + 1))) patience
            (a :: a' :: as) bs
        (b :: rest, left)
      else
        let (rest, left) :=
          mergeRest way (.after patience (firstWins + 1) (.steps (firstWins + 1) 0)) patience
            (a' :: as) (b :: bs)
        (a :: rest, left)
    | .stretches =>
      let round := way.round (a :: a' :: as) (b :: bs)
      if h : round.1.isOpen then
        have := way.length_lt_of_isOpen h
        if round.2 then
          let (rest, left) :=
            mergeRest way .stretches (max 1 (patience - 1)) round.1.first round.1.second
          (round.1.merged ++ rest, left)
        else
          let (rest, left) :=
            mergeRest way (.steps 0 0) (patience + 1) round.1.first round.1.second
          (round.1.merged ++ rest, left)
      else (round.1.merged ++ (round.1.second ++ round.1.first), patience)
  | first, second => (second ++ first, patience)
termination_by first.length + second.length

/-- Two runs merged, of which the second has the first element and the first has the last one. -/
def merge (way : Merging α) (patience : Nat) (first second : List α) : List α × Nat :=
  match second with
  | [] => (first, patience)
  | b :: bs =>
    let (rest, left) := mergeRest way (.steps 0 0) patience first bs
    (b :: rest, left)

theorem perm_mergeRest (way : Merging α) (pace : Pace) (patience : Nat) (first second : List α) :
    (mergeRest way pace patience first second).1.Perm (first ++ second) := by
  fun_induction mergeRest way pace patience first second with
  | case1 _ _ _ _ _ _ _ _ _ rest left heq ih =>
    rw [heq] at ih
    exact (ih.cons _).trans List.perm_middle.symm
  | case2 _ _ _ _ _ _ _ _ _ rest left heq ih =>
    rw [heq] at ih
    exact ih.cons _
  | case3 _ a a' as b bs _ _ _ _ rest left heq ih =>
    rw [heq] at ih
    exact (ih.append_left _).trans (way.perm_round (a :: a' :: as) (b :: bs))
  | case4 _ a a' as b bs _ _ _ _ rest left heq ih =>
    rw [heq] at ih
    exact (ih.append_left _).trans (way.perm_round (a :: a' :: as) (b :: bs))
  | case5 _ a a' as b bs _ _ =>
    exact (List.perm_append_comm.append_left _).trans (way.perm_round (a :: a' :: as) (b :: bs))
  | case6 => exact List.perm_append_comm

theorem perm_merge (way : Merging α) (patience : Nat) (first second : List α) :
    (merge way patience first second).1.Perm (first ++ second) := by
  cases second with
  | nil => simp [merge]
  | cons b bs =>
    simp only [merge]
    exact ((perm_mergeRest way _ _ _ _).cons b).trans List.perm_middle.symm

/-! ## Neighbouring runs -/

/-- From the front. -/
def Merging.forward (less : α → α → Bool) : Merging α :=
  ⟨less, .upper, true⟩

/-- From the back: both runs are reversed, and change their places. -/
def Merging.backward (less : α → α → Bool) : Merging α :=
  ⟨fun b a => less a b, .lower, false⟩

/-- Two runs merged from the end that the shorter one is at. -/
def mergeShorter (less : α → α → Bool) (patience : Nat) (first second : List α) :
    List α × Nat :=
  if first.length ≤ second.length then merge (.forward less) patience first second
  else
    let (merged, left) := merge (.backward less) patience second.reverse first.reverse
    (merged.reverse, left)

/-- Two neighbouring runs made one, with the patience that is left. -/
def join (less : α → α → Bool) (patience : Nat) (first second : List α) : List α × Nat :=
  match second with
  | [] => (first, patience)
  | b :: bs =>
    let front := gallop .upper (fun a => !less b a) first
    match (first.drop front).getLast? with
    | none => (first ++ b :: bs, patience)
    | some a =>
      let back := (b :: bs).length - gallop .lower (fun y => !less y a) (b :: bs).reverse
      if back = 0 then (first ++ b :: bs, patience)
      else
        let (merged, left) :=
          mergeShorter less patience (first.drop front) ((b :: bs).take back)
        (first.take front ++ merged ++ (b :: bs).drop back, left)

theorem perm_mergeShorter (less : α → α → Bool) (patience : Nat) (first second : List α) :
    (mergeShorter less patience first second).1.Perm (first ++ second) := by
  simp only [mergeShorter]
  split
  · exact perm_merge _ _ _ _
  · refine (List.reverse_perm _).trans ((perm_merge _ _ _ _).trans ?_)
    rw [← List.reverse_append]
    exact List.reverse_perm _

theorem perm_join (less : α → α → Bool) (patience : Nat) (first second : List α) :
    (join less patience first second).1.Perm (first ++ second) := by
  cases second with
  | nil => simp [join]
  | cons b bs =>
    simp only [join]
    split
    · exact .refl _
    · split
      · exact .refl _
      · generalize gallop _ _ _ = front
        generalize List.length _ - _ = back
        refine (((perm_mergeShorter less patience _ _).append_left _).append_right _).trans ?_
        rw [← List.append_assoc, List.take_append_drop, List.append_assoc, List.take_append_drop]

end Ranking
end Phrasebook
