/-!
# Sorting

Catalogues, action keys and listings are short, and are put in order by insertion. Elements that the
order does not tell apart stay in the order in which they came.

`sorted_perm` and `pairwise_sorted` pin the result down: it has the same elements, and they are in order.
-/

namespace Laurels

variable {α : Type}

/-- Insert in front of the first element that does not come strictly before. -/
def insertSorted (le : α → α → Bool) (x : α) : List α → List α
  | [] => [x]
  | y :: ys => if le x y then x :: y :: ys else y :: insertSorted le x ys

/-- The elements in order. -/
def sorted (le : α → α → Bool) (xs : List α) : List α := xs.foldr (insertSorted le) []

theorem insertSorted_perm (le : α → α → Bool) (x : α) (ys : List α) :
    (insertSorted le x ys).Perm (x :: ys) := by
  induction ys with
  | nil => exact .refl _
  | cons y ys ih =>
    unfold insertSorted
    split
    · exact .refl _
    · exact (ih.cons y).trans (.swap x y ys)

theorem sorted_perm (le : α → α → Bool) (xs : List α) : (sorted le xs).Perm xs := by
  induction xs with
  | nil => exact .refl _
  | cons x xs ih => exact (insertSorted_perm le x _).trans (ih.cons x)

theorem mem_sorted {le : α → α → Bool} {x : α} {xs : List α} : x ∈ sorted le xs ↔ x ∈ xs :=
  (sorted_perm le xs).mem_iff

theorem pairwise_insertSorted {le : α → α → Bool} (total : ∀ a b, le a b = true ∨ le b a = true)
    (transitive : ∀ a b c, le a b = true → le b c = true → le a c = true) (x : α) {ys : List α}
    (h : ys.Pairwise fun a b => le a b = true) :
    (insertSorted le x ys).Pairwise fun a b => le a b = true := by
  induction ys with
  | nil => simp [insertSorted]
  | cons y ys ih =>
    rw [List.pairwise_cons] at h
    unfold insertSorted
    split
    · rename_i hxy
      rw [List.pairwise_cons, List.pairwise_cons]
      refine ⟨fun z hz => ?_, h⟩
      rcases List.mem_cons.1 hz with rfl | hz
      · exact hxy
      · exact transitive _ _ _ hxy (h.1 z hz)
    · rename_i hxy
      rw [List.pairwise_cons]
      refine ⟨fun z hz => ?_, ih h.2⟩
      rcases List.mem_cons.1 ((insertSorted_perm le x ys).mem_iff.1 hz) with rfl | hz
      · exact (total z y).resolve_left hxy
      · exact h.1 z hz

/-- The elements of `sorted` are in order. -/
theorem pairwise_sorted {le : α → α → Bool} (total : ∀ a b, le a b = true ∨ le b a = true)
    (transitive : ∀ a b c, le a b = true → le b c = true → le a c = true) (xs : List α) :
    (sorted le xs).Pairwise fun a b => le a b = true := by
  induction xs with
  | nil => exact .nil
  | cons x xs ih => exact pairwise_insertSorted total transitive x ih

end Laurels
