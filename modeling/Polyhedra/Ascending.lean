/-!
# Ascending lists of integers

Sorting by insertion, for the short lists of indices that partitions and selections are made of.
-/

namespace Polyhedra

/-- Put an integer before the first element that is not smaller. -/
def insertAscending (x : Int) : List Int → List Int
  | [] => [x]
  | y :: ys => if x ≤ y then x :: y :: ys else y :: insertAscending x ys

/-- The elements in ascending order, repetitions kept. -/
def ascending : List Int → List Int
  | [] => []
  | x :: xs => insertAscending x (ascending xs)

theorem perm_insertAscending (x : Int) (l : List Int) : (insertAscending x l).Perm (x :: l) := by
  induction l with
  | nil => exact .refl _
  | cons y ys ih =>
    rw [insertAscending]
    split
    · exact .refl _
    · exact (ih.cons y).trans (.swap x y ys)

/-- Sorting loses and invents nothing. -/
theorem perm_ascending (l : List Int) : (ascending l).Perm l := by
  induction l with
  | nil => exact .refl _
  | cons x xs ih => exact (perm_insertAscending x _).trans (ih.cons x)

@[simp] theorem length_ascending (l : List Int) : (ascending l).length = l.length :=
  (perm_ascending l).length_eq

end Polyhedra
