import Mathlib
import Polyhedra.Proofs.Elimination.InPlace
import Polyhedra.Proofs.Elimination.Solution

/-!
# Back substitution finishes the reduction

Clearing a column above its pivot combines rows, so the solutions stay the same. A column that is cleared already has a
zero in every other pivot row and is not touched again. Once the last column has had its turn, a unit upper triangular
system has become the identity beside its only solution, and work in place ends with the same table.
-/

namespace Polyhedra

open Matrix

variable {r c k n : Nat}

/-- A column has zeros outside one row. -/
def Grid.IsClearedTo (g : Grid Rat r c) (row : Fin r) (col : Fin c) : Prop :=
  ∀ i, i ≠ row → g.entry i col = 0

namespace System

def solutions (s : System Rat r c k) : Set (Matrix (Fin c) (Fin k) Rat) :=
  {X | s.left.toMatrix * X = s.right.toMatrix}

theorem RowEquivalent.solutions_eq {s t : System Rat r c k} (h : RowEquivalent s t) : t.solutions = s.solutions := by
  obtain ⟨E, unit, left, right⟩ := h
  obtain ⟨F, inverse⟩ := unit.exists_left_inv
  ext X
  change t.left.toMatrix * X = t.right.toMatrix ↔ s.left.toMatrix * X = s.right.toMatrix
  rw [left, right, Matrix.mul_assoc]
  refine ⟨fun solves => ?_, fun solves => by rw [solves]⟩
  calc s.left.toMatrix * X
      = F * (E * (s.left.toMatrix * X)) := by rw [← Matrix.mul_assoc, inverse, Matrix.one_mul]
    _ = F * (E * s.right.toMatrix) := by rw [solves]
    _ = s.right.toMatrix := by rw [← Matrix.mul_assoc, inverse, Matrix.one_mul]

/-! ### One column -/

section Step

variable (s : System Rat r c k) {row : Fin r} {col : Fin c}

theorem col_clearAbove {i : Fin r} {j : Fin c} (cleared : s.left.IsClearedTo i j) (own : row = i → col = j) :
    (s.clearAbove row col).left.toMatrix.col j = s.left.toMatrix.col j := by
  funext a
  change (s.clearAbove row col).left.entry a j = s.left.entry a j
  rw [clearAbove, Grid.entry_clearAbove]
  split
  · rename_i above
    by_cases same : row = i
    · -- The pivot's own column is cleared: no multiple is taken.
      have zero : s.left.entry a col = 0 := by
        rw [own same]
        exact cleared a (same ▸ above.ne)
      rw [zero, zero_mul, sub_zero]
    · rw [cleared row same, mul_zero, sub_zero]
  · rfl

theorem entry_clearAbove_eq_zero (one : s.left.entry row col = 1) {i : Fin r} (above : i < row) :
    (s.clearAbove row col).left.entry i col = 0 := by
  rw [clearAbove, Grid.entry_clearAbove, if_pos above, one, mul_one, sub_self]

end Step

/-! ### All columns -/

theorem backSubstitute_eq {s : System Rat n n k} (upper : s.left.IsUnitUpper n) :
    ∃ x : Grid Rat n k, s.backSubstitute = ⟨.identity, x⟩ ∧ s.solutions = {x.toMatrix} := by
  obtain ⟨equivalent, one⟩ := backSubstitute_spec upper
  have left : s.backSubstitute.left = .identity := Grid.toMatrix_injective (one.trans Grid.toMatrix_identity.symm)
  refine ⟨s.backSubstitute.right, congrArg (System.mk · s.backSubstitute.right) left, ?_⟩
  rw [← equivalent.solutions_eq]
  ext X
  change s.backSubstitute.left.toMatrix * X = s.backSubstitute.right.toMatrix ↔ X = s.backSubstitute.right.toMatrix
  rw [one, Matrix.one_mul]

end System

namespace Work

/-- Back substitution in place turns every unit upper triangular table into the identity and the right-hand sides beside
it into the only solution, as it does on systems. A single step, whatever integers name it and even if it breaks off,
keeps the solutions, and it does not touch a column that is cleared already, be it to another row or the pivot's own. A
step that names a pivot of one clears the column above it. -/
theorem backSubstitute_reaches_identity :
    (∀ {n k : Nat} (data : Grid Rat n n) (rhs : Grid Rat n k), data.IsUnitUpper n → ∃ x : Grid Rat n k,
      outcome backSubstitute (System.mk data rhs).workspace = (some (), (System.mk .identity x).workspace) ∧
      (System.mk data rhs).backSubstitute = ⟨.identity, x⟩ ∧
      (System.mk data rhs).solutions = {x.toMatrix}) ∧
    ∀ {r c k : Nat} (s : System Rat r c k) (row col : Int), ∃ (answer : Option Unit) (t : System Rat r c k),
      outcome (clearAbove row col) s.workspace = (answer, t.workspace) ∧
      t.solutions = s.solutions ∧
      (∀ (i : Fin r) (j : Fin c), s.left.IsClearedTo i j → (row = (i : Nat) → wrapped? c col = some j) →
        t.left.toMatrix.col j = s.left.toMatrix.col j) ∧
      ∀ (i : Fin r) (j : Fin c), row = (i : Nat) → wrapped? c col = some j →
        answer = some () ∧ (s.left.entry i j = 1 → ∀ a, a < i → t.left.entry a j = 0) := by
  refine ⟨?_, ?_⟩
  · intro n k data rhs upper
    obtain ⟨x, finished, only⟩ := System.backSubstitute_eq (s := ⟨data, rhs⟩) upper
    refine ⟨x, ?_, finished, only⟩
    rw [outcome_backSubstitute, finished]
  · intro r c k s row col
    by_cases named : ∃ (i : Fin r) (j : Fin c), row = (i : Nat) ∧ wrapped? c col = some j
    · obtain ⟨p, q, rfl, column⟩ := named
      refine ⟨some (), s.clearAbove p q, outcome_clearAbove s p column,
        (System.rowEquivalent_clearAbove s p q).solutions_eq, ?_, ?_⟩
      · intro i j cleared own
        refine s.col_clearAbove cleared fun same => ?_
        exact Option.some.inj (column.symm.trans (own (by rw [same])))
      · intro i j row col
        obtain rfl : p = i := Fin.ext (by omega)
        obtain rfl : q = j := Option.some.inj (column.symm.trans col)
        exact ⟨rfl, fun one a above => s.entry_clearAbove_eq_zero one above⟩
    · have outside : (∀ i : Fin r, row ≠ (i : Nat)) ∨ wrapped? c col = none := by
        by_contra inside
        push Not at inside
        obtain ⟨⟨i, row⟩, column⟩ := inside
        obtain ⟨j, column⟩ := Option.ne_none_iff_exists'.1 column
        exact named ⟨i, j, row, column⟩
      refine ⟨_, s, Prod.ext rfl (outcome_clearAbove_outside s outside), rfl, fun _ _ _ _ => rfl, ?_⟩
      intro i j row col
      exact absurd ⟨i, j, row, col⟩ named

end Work

/-- Three equations, each with one unknown more than the next. -/
def System.ladder : System Rat 3 3 2 :=
  ⟨.ofLists 0 [[1, 2, 3], [0, 1, 4], [0, 0, 1]], .ofLists 0 [[10, 1], [5, 2], [1, 3]]⟩

namespace Work

theorem backSubstitute_of_ladder : System.ladder.left.IsUnitUpper 3 ∧ System.ladder.left.IsClearedTo 0 0 ∧
    (∃ x : Grid Rat 3 2, x.toLists = [[5, 12], [1, -10], [1, 3]] ∧
      outcome backSubstitute System.ladder.workspace = (some (), (System.mk .identity x).workspace) ∧
      System.ladder.solutions = {x.toMatrix}) ∧
    ∃ t : System Rat 3 3 2, outcome (clearAbove 2 (-1)) System.ladder.workspace = (some (), t.workspace) ∧
      t.solutions = System.ladder.solutions ∧ t.left.toMatrix.col 0 = System.ladder.left.toMatrix.col 0 ∧
      ∀ a : Fin 3, a < 2 → t.left.entry a 2 = 0 := by
  have upper : System.ladder.left.IsUnitUpper 3 := ⟨by decide +kernel, by decide +kernel⟩
  have cleared : System.ladder.left.IsClearedTo 0 0 := by
    unfold Grid.IsClearedTo
    decide +kernel
  have last : wrapped? 3 (-1) = some (2 : Fin 3) := by decide
  obtain ⟨runs, steps⟩ := backSubstitute_reaches_identity
  refine ⟨upper, cleared, ?_, ?_⟩
  · obtain ⟨x, inPlace, finished, only⟩ := runs System.ladder.left System.ladder.right upper
    have entries : System.ladder.backSubstitute.right.toLists = [[5, 12], [1, -10], [1, 3]] := by decide +kernel
    rw [show System.ladder.backSubstitute = ⟨.identity, x⟩ from finished] at entries
    exact ⟨x, entries, inPlace, only⟩
  · obtain ⟨answer, t, ends, same, kept, clears⟩ := steps System.ladder 2 (-1)
    obtain ⟨rfl, zeros⟩ := clears 2 2 rfl last
    have one : System.ladder.left.entry 2 2 = 1 := by decide +kernel
    exact ⟨t, ends, same, kept 0 0 cleared (by decide), zeros one⟩

end Work

end Polyhedra
