/-!
# Phrasebook.Ranking

Lists ranked by a relation, ties in their old order. `ranksBefore a b` says that `a` may stand before
`b`, and both hold of elements that tie.

* `perm_ranked`: a ranking holds the elements of the list.
* `pairwise_ranked`: what stands before may stand before, for a total order.
* `filter_ranked`: elements that tie with each other keep their order.
* `insert_eq`: where a new element goes.
* `ranked_filter`, `ranked_map`: elements can be left out, or changed into others of the same rank,
  before the ranking or after it.
* `head?_ranked`: an element that those before it rank behind, and those after it do not rank before,
  comes first.
-/

namespace Phrasebook
namespace Ranking

variable {α : Type}

/-- A ranking with `x` put in front of the first element that it may stand before. -/
def insert (ranksBefore : α → α → Bool) (x : α) : List α → List α
  | [] => [x]
  | y :: rest =>
    if ranksBefore x y then x :: y :: rest else y :: insert ranksBefore x rest

/-- The list ranked by a relation. -/
def ranked (ranksBefore : α → α → Bool) : List α → List α
  | [] => []
  | x :: rest => insert ranksBefore x (ranked ranksBefore rest)

theorem perm_insert (ranksBefore : α → α → Bool) (x : α) (xs : List α) :
    (insert ranksBefore x xs).Perm (x :: xs) := by
  induction xs with
  | nil => exact .refl _
  | cons y rest ih =>
    simp only [insert]
    split
    · exact .refl _
    · exact (ih.cons y).trans (.swap x y rest)

theorem perm_ranked (ranksBefore : α → α → Bool) (xs : List α) :
    (ranked ranksBefore xs).Perm xs := by
  induction xs with
  | nil => exact .refl _
  | cons x rest ih => exact (perm_insert ranksBefore x _).trans (ih.cons x)

theorem pairwise_insert {ranksBefore : α → α → Bool}
    (total : ∀ a b, ranksBefore a b = false → ranksBefore b a = true)
    (trans : ∀ a b c, ranksBefore a b = true → ranksBefore b c = true → ranksBefore a c = true)
    (x : α) {xs : List α} (h : xs.Pairwise fun a b => ranksBefore a b = true) :
    (insert ranksBefore x xs).Pairwise fun a b => ranksBefore a b = true := by
  induction xs with
  | nil => simp [insert]
  | cons y rest ih =>
    have hy := List.pairwise_cons.mp h
    simp only [insert]
    split
    · rename_i hxy
      refine List.pairwise_cons.mpr ⟨fun b hb => ?_, h⟩
      rcases List.mem_cons.mp hb with rfl | hb
      · exact hxy
      · exact trans x y b hxy (hy.1 b hb)
    · rename_i hxy
      refine List.pairwise_cons.mpr ⟨fun b hb => ?_, ih hy.2⟩
      rcases List.mem_cons.mp ((perm_insert ranksBefore x rest).mem_iff.mp hb) with rfl | hb
      · exact total b y (by simpa using hxy)
      · exact hy.1 b hb

theorem pairwise_ranked {ranksBefore : α → α → Bool}
    (total : ∀ a b, ranksBefore a b = false → ranksBefore b a = true)
    (trans : ∀ a b c, ranksBefore a b = true → ranksBefore b c = true → ranksBefore a c = true)
    (xs : List α) : (ranked ranksBefore xs).Pairwise fun a b => ranksBefore a b = true := by
  induction xs with
  | nil => exact .nil
  | cons x rest ih => exact pairwise_insert total trans x ih

theorem insert_filter {ranksBefore : α → α → Bool}
    (trans : ∀ a b c, ranksBefore a b = true → ranksBefore b c = true → ranksBefore a c = true)
    (p : α → Bool) (x : α) {xs : List α} (h : xs.Pairwise fun a b => ranksBefore a b = true) :
    (insert ranksBefore x xs).filter p =
      if p x then insert ranksBefore x (xs.filter p) else xs.filter p := by
  induction xs with
  | nil => by_cases hx : p x = true <;> simp [insert, hx]
  | cons y rest ih =>
    obtain ⟨hy, hrest⟩ := List.pairwise_cons.mp h
    simp only [insert]
    split
    · rename_i hxy
      by_cases hx : p x = true
      · -- what is left of the list still ranks behind the element in front of it
        have hfront : ∀ ys, (∀ b ∈ ys, ranksBefore x b = true) →
            insert ranksBefore x ys = x :: ys := by
          intro ys hys
          cases ys with
          | nil => rfl
          | cons b ys => simp [insert, hys b (by simp)]
        rw [if_pos hx, List.filter_cons_of_pos hx, hfront]
        intro b hb
        rcases List.mem_cons.mp (List.mem_filter.mp hb).1 with rfl | hb
        · exact hxy
        · exact trans x y b hxy (hy b hb)
      · rw [if_neg hx, List.filter_cons_of_neg hx]
    · rename_i hxy
      by_cases hpy : p y = true
      · rw [List.filter_cons_of_pos hpy, List.filter_cons_of_pos hpy, ih hrest]
        split
        · simp [insert, hxy]
        · rfl
      · rw [List.filter_cons_of_neg hpy, List.filter_cons_of_neg hpy, ih hrest]

theorem ranked_filter {ranksBefore : α → α → Bool}
    (total : ∀ a b, ranksBefore a b = false → ranksBefore b a = true)
    (trans : ∀ a b c, ranksBefore a b = true → ranksBefore b c = true → ranksBefore a c = true)
    (p : α → Bool) (xs : List α) :
    ranked ranksBefore (xs.filter p) = (ranked ranksBefore xs).filter p := by
  induction xs with
  | nil => rfl
  | cons x rest ih =>
    rw [ranked, insert_filter trans p x (pairwise_ranked total trans rest), List.filter_cons, ← ih]
    split
    · rfl
    · rfl

/-- An element goes behind those that it does not rank before, and in front of the others. -/
theorem insert_eq {ranksBefore : α → α → Bool}
    (trans : ∀ a b c, ranksBefore a b = true → ranksBefore b c = true → ranksBefore a c = true)
    (x : α) {xs : List α} (h : xs.Pairwise fun a b => ranksBefore a b = true) :
    insert ranksBefore x xs =
      xs.filter (fun y => !ranksBefore x y) ++ x :: xs.filter (ranksBefore x) := by
  induction xs with
  | nil => rfl
  | cons y rest ih =>
    obtain ⟨hy, hrest⟩ := List.pairwise_cons.mp h
    rw [insert]
    split
    · rename_i hxy
      have hall : ∀ z ∈ y :: rest, ranksBefore x z = true := by
        intro z hz
        rcases List.mem_cons.mp hz with rfl | hz
        · exact hxy
        · exact trans x y z hxy (hy z hz)
      have hnone : (y :: rest).filter (fun z => !ranksBefore x z) = [] :=
        List.filter_eq_nil_iff.mpr fun z hz => by simp [hall z hz]
      rw [hnone, List.filter_eq_self.mpr hall, List.nil_append]
    · rename_i hxy
      rw [ih hrest, List.filter_cons_of_pos (by simpa using hxy), List.filter_cons_of_neg hxy,
        List.cons_append]

theorem insert_map {ranksBefore : α → α → Bool} {f : α → α}
    (hf : ∀ a b, ranksBefore (f a) (f b) = ranksBefore a b) (x : α) (xs : List α) :
    insert ranksBefore (f x) (xs.map f) = (insert ranksBefore x xs).map f := by
  induction xs with
  | nil => rfl
  | cons y rest ih =>
    simp only [List.map_cons, insert, hf, ih]
    split <;> rfl

theorem ranked_map {ranksBefore : α → α → Bool} {f : α → α}
    (hf : ∀ a b, ranksBefore (f a) (f b) = ranksBefore a b) (xs : List α) :
    ranked ranksBefore (xs.map f) = (ranked ranksBefore xs).map f := by
  induction xs with
  | nil => rfl
  | cons x rest ih => rw [List.map_cons, ranked, ih, insert_map hf, ranked]

theorem insert_congr {ranksBefore other : α → α → Bool} {x : α} {xs : List α}
    (h : ∀ y ∈ xs, ranksBefore x y = other x y) : insert ranksBefore x xs = insert other x xs := by
  induction xs with
  | nil => rfl
  | cons y rest ih =>
    simp only [insert, h y (by simp), ih fun z hz => h z (List.mem_cons_of_mem _ hz)]

/-- Only how the elements of a list compare with each other counts. -/
theorem ranked_congr {ranksBefore other : α → α → Bool} {xs : List α}
    (h : ∀ a ∈ xs, ∀ b ∈ xs, ranksBefore a b = other a b) :
    ranked ranksBefore xs = ranked other xs := by
  induction xs with
  | nil => rfl
  | cons x rest ih =>
    have hrest := ih fun a ha b hb =>
      h a (List.mem_cons_of_mem _ ha) b (List.mem_cons_of_mem _ hb)
    rw [ranked, ranked, hrest]
    apply insert_congr
    intro y hy
    exact h x (by simp) y (List.mem_cons_of_mem _ ((perm_ranked other rest).mem_iff.mp hy))

theorem head?_ranked {ranksBefore : α → α → Bool} {before after : List α} {x : α}
    (hbefore : ∀ y ∈ before, ranksBefore y x = false)
    (hafter : ∀ y ∈ after, ranksBefore x y = true) :
    (ranked ranksBefore (before ++ x :: after)).head? = some x := by
  induction before with
  | nil =>
    rw [List.nil_append, ranked]
    cases hranked : ranked ranksBefore after with
    | nil => rfl
    | cons y rest =>
      have hy : y ∈ after := (perm_ranked ranksBefore after).mem_iff.mp (by simp [hranked])
      simp [insert, hafter y hy]
  | cons y before ih =>
    obtain ⟨rest, hrest⟩ :=
      List.head?_eq_some_iff.mp (ih fun z hz => hbefore z (List.mem_cons_of_mem _ hz))
    rw [List.cons_append, ranked, hrest, insert, hbefore y (by simp)]
    rfl

end Ranking
end Phrasebook
