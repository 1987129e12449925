import Mathlib
import Polyhedra.Proofs.DenseMatrix.Fitting
import Polyhedra.Proofs.Elimination.Divisors
import Polyhedra.Proofs.Elimination.Solution

/-!
# Solving is complete

The solution found is the only one, since the coefficients it was found for are invertible. Without a tolerance one is
found for all invertible coefficients, and otherwise the first column that is a combination of those before it is named.
-/

namespace Polyhedra

open Matrix

variable {n k : Nat} {tolerance : Rat}

namespace Grid

variable {g : Grid Rat n n} {rightSide solution : Grid Rat n k}

theorem eq_solution_iff (nonneg : 0 ≤ tolerance) (solved : g.solve tolerance rightSide = .ok solution)
    (Y : Matrix (Fin n) (Fin k) Rat) : g.toMatrix * Y = rightSide.toMatrix ↔ Y = solution.toMatrix := by
  obtain ⟨E, left, same⟩ := solve_ok nonneg solved
  rw [same]
  constructor
  · intro solves
    rw [← solves, ← Matrix.mul_assoc, left, Matrix.one_mul]
  · rintro rfl
    rw [← Matrix.mul_assoc, mul_eq_one_comm.1 left, Matrix.one_mul]

theorem isUnit_of_solve (nonneg : 0 ≤ tolerance) (solved : g.solve tolerance rightSide = .ok solution) :
    IsUnit g.toMatrix := by
  obtain ⟨E, left, _⟩ := solve_ok nonneg solved
  exact IsUnit.of_mul_eq_one_right E left

end Grid

theorem Scalar.barsZero_rat (nonneg : 0 ≤ tolerance) : BarsZero tolerance where
  negligible x zero := by
    rw [eq_iff] at zero
    rw [isNegligible_iff, zero, abs_zero]
    exact nonneg
  notSizeable x zero := by
    rw [eq_iff] at zero
    rw [← Bool.not_eq_true, isSizeable_iff, zero, abs_zero]
    exact not_lt.2 nonneg
  div_self x nonzero := by
    rw [← Bool.not_eq_true, eq_iff] at nonzero ⊢
    rw [div_self nonzero]
    exact one_ne_zero

namespace DenseMatrix

/-- A solution found has the size asked for and is the only one. Without a tolerance there is one exactly for invertible
coefficients, and the fault names the least column that those before it combine to. No divisor is ever zero. -/
theorem solve?_solves_uniquely (g : Grid Rat n n) (rightSide : Grid Rat n k) (tolerance : Rat) (nonneg : 0 ≤ tolerance) :
    (∀ x, solve? tolerance ⟨n, n, g⟩ ⟨n, k, rightSide⟩ = .ok x → ∃ solution : Grid Rat n k, x = ⟨n, k, solution⟩ ∧
      ∀ Y : Matrix (Fin n) (Fin k) Rat, g.toMatrix * Y = rightSide.toMatrix ↔ Y = solution.toMatrix) ∧
    ((∃ x, solve? 0 ⟨n, n, g⟩ ⟨n, k, rightSide⟩ = .ok x) ↔ IsUnit g.toMatrix) ∧
    (¬IsUnit g.toMatrix → ∃ column : Fin n,
      solve? 0 ⟨n, n, g⟩ ⟨n, k, rightSide⟩ = .error (.noPivot .solving column) ∧
      IsLeast {j | g.toMatrix.col j ∈ Submodule.span Rat (g.toMatrix.col '' {i | i < j})} column) ∧
    ∀ x ∈ System.divisors tolerance (List.finRange n) ⟨g, rightSide⟩, x ≠ 0 := by
  simp only [solve?_square]
  refine ⟨?_, ⟨?_, ?_⟩, ?_, ?_⟩
  · intro x found
    cases solved : g.solve tolerance rightSide with
    | error e => simp [solved, ofReduction] at found
    | ok solution =>
      rw [solved] at found
      exact ⟨solution, (Except.ok.inj found).symm, Grid.eq_solution_iff nonneg solved⟩
  · intro h
    obtain ⟨x, found⟩ := h
    cases solved : g.solve 0 rightSide with
    | error e => simp [solved, ofReduction] at found
    | ok solution => exact Grid.isUnit_of_solve le_rfl solved
  · intro regular
    cases solved : g.solve 0 rightSide with
    | error e => exact absurd regular (Grid.not_isUnit_of_solve_error solved)
    | ok solution => exact ⟨_, rfl⟩
  · intro singular
    cases solved : g.solve 0 rightSide with
    | error e =>
      obtain ⟨inside, least⟩ := Grid.isLeast_dependent_of_solve_error solved
      exact ⟨⟨e, inside⟩, rfl, isLeast_col_mem_span inside least⟩
    | ok solution => exact absurd (Grid.isUnit_of_solve le_rfl solved) singular
  · intro x mem
    have nonzero := System.eq_zero_of_mem_divisors (Scalar.barsZero_rat nonneg) mem
    rwa [← Bool.not_eq_true, Scalar.eq_iff] at nonzero

theorem solve?_of_exchanged : (0 : Rat) ≤ 1 / 2 ∧
    System.divisors (1 / 2 : Rat) (List.finRange 2)
      ⟨.ofLists 0 [[1 / 3, 2], [3, 4]], (.ofLists 0 [[19 / 3, -4 / 3], [15, 2]] : Grid Rat 2 2)⟩ = [3, 1, 14 / 9, 1] ∧
    ∃ solution : Grid Rat 2 2,
      solve? (1 / 2) ⟨2, 2, .ofLists 0 [[1 / 3, 2], [3, 4]]⟩ ⟨2, 2, .ofLists 0 [[19 / 3, -4 / 3], [15, 2]]⟩ =
        .ok ⟨2, 2, solution⟩ ∧
      solution.toLists = [[1, 2], [3, -1]] ∧
      (Grid.ofLists 0 [[1 / 3, 2], [3, 4]]).toMatrix * solution.toMatrix =
        (Grid.ofLists 0 [[19 / 3, -4 / 3], [15, 2]] : Grid Rat 2 2).toMatrix := by
  have nonneg : (0 : Rat) ≤ 1 / 2 := by decide +kernel
  obtain ⟨only, _⟩ := solve?_solves_uniquely (n := 2) (k := 2) (.ofLists 0 [[1 / 3, 2], [3, 4]])
    (.ofLists 0 [[19 / 3, -4 / 3], [15, 2]]) (1 / 2) nonneg
  have found : (solve? (1 / 2 : Rat) ⟨2, 2, .ofLists 0 [[1 / 3, 2], [3, 4]]⟩
      ⟨2, 2, .ofLists 0 [[19 / 3, -4 / 3], [15, 2]]⟩).toOption.map toLists = some [[1, 2], [3, -1]] := by
    decide +kernel
  refine ⟨nonneg, by decide +kernel, ?_⟩
  cases run : solve? (1 / 2 : Rat) ⟨2, 2, .ofLists 0 [[1 / 3, 2], [3, 4]]⟩
      ⟨2, 2, .ofLists 0 [[19 / 3, -4 / 3], [15, 2]]⟩ with
  | error fault =>
    rw [run] at found
    cases found
  | ok x =>
    rw [run] at found
    obtain ⟨solution, rfl, solves⟩ := only x run
    exact ⟨solution, rfl, Option.some.inj found, (solves solution.toMatrix).2 rfl⟩

end DenseMatrix

end Polyhedra
