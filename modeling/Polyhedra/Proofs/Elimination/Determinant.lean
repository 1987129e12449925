import Mathlib
import Polyhedra.Proofs.DenseMatrix.Fitting
import Polyhedra.Proofs.Elimination.Factors

/-!
# Determinants are right

Both factors are triangular, so their determinants are the products of their diagonals, and rearranging the rows gives
the sign of the permutation that was recorded: minus one for each exchange. Factors are missing only at a column that
depends on those before it, where the determinant is zero, unless the tolerance ruled out a pivot that is not.
-/

namespace Polyhedra

open Matrix

variable {n : Nat} {tolerance : Rat} {g : Grid Rat n n} {f : Factors Rat n n}

namespace Factors

theorem determinant_eq_prod (f : Factors Rat n n) :
    f.determinant = (-1) ^ f.swaps * ((∏ i, f.upper.entry i i) * ∏ i, f.lower.entry i i) := by
  have diagonal (h : Grid Rat n n) :
      Scalar.product ((List.finRange n).map fun i => h.entry i i) = ∏ i, h.entry i i := by
    rw [Scalar.product_eq, ← List.ofFn_eq_map, List.prod_ofFn]
  rw [determinant, diagonal, diagonal]
  change (if f.swaps % 2 = 1 then -(_ * _) else _ * _) = _
  split
  · rename_i odd
    rw [(Nat.odd_iff.2 odd).neg_one_pow, neg_one_mul]
  · rename_i even
    rw [(Nat.even_iff.2 (Nat.mod_two_ne_one.1 even)).neg_one_pow, one_mul]

namespace Resolves

theorem det_upper (h : f.Resolves g tolerance n) : f.upper.toMatrix.det = ∏ i, f.upper.entry i i := by
  apply det_of_isUpperTriangular
  intro i j hij
  exact h.upper i j j.isLt hij

/-- The exchanges give the same sign to the rearranged grid as to the product of the diagonals. -/
theorem determinant_eq_det (h : f.Resolves g tolerance n) : f.determinant = g.toMatrix.det := by
  obtain ⟨σ, order, sign, _⟩ := h.order
  have rearranged : (-1) ^ f.swaps * g.toMatrix.det = f.lower.toMatrix.det * f.upper.toMatrix.det := by
    have product := congrArg det h.product
    rw [toMatrix_permutation order, det_mul, det_mul, det_permutation, sign] at product
    exact_mod_cast product
  calc f.determinant = (-1) ^ f.swaps * (f.lower.toMatrix.det * f.upper.toMatrix.det) := by
        rw [determinant_eq_prod, ← h.det_upper, ← h.det_lower, mul_comm f.upper.toMatrix.det]
    _ = (-1) ^ f.swaps * (-1) ^ f.swaps * g.toMatrix.det := by rw [← rearranged, mul_assoc]
    _ = g.toMatrix.det := by rw [← mul_pow, neg_one_mul, neg_neg, one_pow, one_mul]

/-- A grid with factors for all of its columns is invertible. -/
theorem isUnit (h : f.Resolves g tolerance n) (nonneg : 0 ≤ tolerance) : IsUnit g.toMatrix := by
  have independent := h.independent nonneg le_rfl
  have all : {j : Fin n | (j : Nat) < n} = Set.univ := Set.eq_univ_of_forall fun j => j.isLt
  rw [all] at independent
  exact linearIndependent_cols_iff_isUnit.1 (linearIndepOn_univ_iff.1 independent)

end Resolves

/-- A square grid has factors for all of its columns as soon as it has any. -/
theorem resolves_square (nonneg : 0 ≤ tolerance) (run : g.factor tolerance = .ok f) : f.Resolves g tolerance n := by
  have resolved := factor_spec nonneg g
  rw [run] at resolved
  have resolved : f.Resolves g tolerance (min n n) := resolved
  rwa [Nat.min_self] at resolved

/-- Without a tolerance, only a singular grid has no factors. -/
theorem not_isUnit_of_factor_error {e : Nat} (failed : g.factor 0 = .error e) : ¬IsUnit g.toMatrix := by
  obtain ⟨_, dependent, _⟩ := isLeast_dependent failed
  intro unit
  exact dependent ((linearIndependent_cols_iff_isUnit.2 unit).linearIndepOn _)

end Factors

namespace Grid

theorem determinant_of_factor (nonneg : 0 ≤ tolerance) (run : g.factor tolerance = .ok f) :
    g.determinant tolerance = g.toMatrix.det := by
  rw [determinant, run]
  exact (Factors.resolves_square nonneg run).determinant_eq_det

theorem determinant_of_factor_error {e : Nat} (failed : g.factor tolerance = .error e) : g.determinant tolerance = 0 := by
  rw [determinant, failed]

/-- Without a tolerance the determinant is always the right one. -/
theorem determinant_zero (g : Grid Rat n n) : g.determinant 0 = g.toMatrix.det := by
  cases run : g.factor 0 with
  | ok f => exact determinant_of_factor le_rfl run
  | error e =>
    have singular := Factors.not_isUnit_of_factor_error run
    rw [isUnit_iff_isUnit_det, isUnit_iff_ne_zero, not_not] at singular
    rw [determinant_of_factor_error run, singular]

theorem determinant_ne_zero (nonneg : 0 ≤ tolerance) (run : g.factor tolerance = .ok f) :
    g.determinant tolerance ≠ 0 := by
  rw [determinant_of_factor nonneg run, ← isUnit_iff_ne_zero, ← isUnit_iff_isUnit_det]
  exact (Factors.resolves_square nonneg run).isUnit nonneg

end Grid

namespace DenseMatrix

/-- What is computed is the alternating sum over all permutations: without a tolerance always, so that it is zero for
exactly the singular matrices, and with one as long as there are factors. Otherwise the answer is zero. -/
theorem determinant?_eq_det (g : Grid Rat n n) (tolerance : Rat) (nonneg : 0 ≤ tolerance) :
    determinant? 0 ⟨n, n, g⟩ = .ok (∑ σ : Equiv.Perm (Fin n), (σ.sign : Rat) * ∏ i, g.entry (σ i) i) ∧
    (determinant? 0 ⟨n, n, g⟩ = .ok 0 ↔ ¬IsUnit g.toMatrix) ∧
    (n = 0 → determinant? tolerance ⟨n, n, g⟩ = .ok 1) ∧
    (∀ f, factor? tolerance ⟨n, n, g⟩ = .ok f → determinant? tolerance ⟨n, n, g⟩ =
      .ok (∑ σ : Equiv.Perm (Fin n), (σ.sign : Rat) * ∏ i, g.entry (σ i) i)) ∧
    ∀ fault, factor? tolerance ⟨n, n, g⟩ = .error fault → determinant? tolerance ⟨n, n, g⟩ = .ok 0 := by
  have leibniz : ∑ σ : Equiv.Perm (Fin n), (σ.sign : Rat) * ∏ i, g.entry (σ i) i = g.toMatrix.det :=
    (det_apply' g.toMatrix).symm
  simp only [determinant?_square, leibniz]
  refine ⟨?_, ?_, ?_, ?_, ?_⟩
  · rw [Grid.determinant_zero]
  · rw [Grid.determinant_zero, Except.ok.injEq, isUnit_iff_isUnit_det, isUnit_iff_ne_zero, not_not]
  · intro empty
    subst empty
    rw [Grid.determinant_of_factor nonneg (rfl : g.factor tolerance = .ok (Factors.start g)), det_fin_zero]
  · intro f run
    rw [Grid.determinant_of_factor nonneg (factor?_eq_ok run)]
  · intro fault failed
    obtain ⟨column, stuck, _⟩ := factor?_eq_error failed
    rw [Grid.determinant_of_factor_error stuck]

/-- One exchange turns the sign. A tolerance above every entry of the first column leaves no factors, though this matrix
is not singular. -/
theorem determinant?_of_exchanged : (0 : Rat) ≤ 5 ∧
    determinant? (0 : Rat) ⟨3, 3, .ofLists 0 [[0, 2, 1], [1, 3, 2], [4, 1, 1]]⟩ = .ok 3 ∧
    ∑ σ : Equiv.Perm (Fin 3),
      (σ.sign : Rat) * ∏ i, (Grid.ofLists 0 [[0, 2, 1], [1, 3, 2], [4, 1, 1]] : Grid Rat 3 3).entry (σ i) i = 3 ∧
    factor? (5 : Rat) ⟨3, 3, .ofLists 0 [[0, 2, 1], [1, 3, 2], [4, 1, 1]]⟩ = .error (.noPivot .decomposition 0) ∧
    determinant? (5 : Rat) ⟨3, 3, .ofLists 0 [[0, 2, 1], [1, 3, 2], [4, 1, 1]]⟩ = .ok 0 := by
  have nonneg : (0 : Rat) ≤ 5 := by decide +kernel
  obtain ⟨exact, _, _, _, hidden⟩ :=
    determinant?_eq_det (n := 3) (.ofLists 0 [[0, 2, 1], [1, 3, 2], [4, 1, 1]]) 5 nonneg
  have value : determinant? (0 : Rat) ⟨3, 3, .ofLists 0 [[0, 2, 1], [1, 3, 2], [4, 1, 1]]⟩ = .ok 3 := by
    rw [determinant?_square]
    exact congrArg Except.ok (by decide +kernel)
  have stuck : (Grid.ofLists 0 [[0, 2, 1], [1, 3, 2], [4, 1, 1]] : Grid Rat 3 3).factor 5 = .error 0 := rfl
  have failed : factor? (5 : Rat) ⟨3, 3, .ofLists 0 [[0, 2, 1], [1, 3, 2], [4, 1, 1]]⟩ =
      .error (.noPivot .decomposition 0) := by
    rw [factor?, stuck]
  refine ⟨nonneg, value, ?_, failed, hidden _ failed⟩
  rw [value] at exact
  exact (Except.ok.inj exact).symm

end DenseMatrix

end Polyhedra
