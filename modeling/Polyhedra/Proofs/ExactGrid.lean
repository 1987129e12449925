import Mathlib
import Polyhedra.Grid

/-!
# Grids of rational numbers as matrices

Over the rational numbers the operations on grids are those of matrices. Proofs about exact arithmetic move
from a grid to its matrix here, once, and reach the entries of a product only through the matrix product.
-/

namespace Polyhedra

theorem Scalar.sum_eq (terms : List Rat) : Scalar.sum terms = terms.sum :=
  List.sum_eq_foldl.symm

theorem Scalar.product_eq (factors : List Rat) : Scalar.product factors = factors.prod :=
  List.prod_eq_foldl.symm

@[simp] theorem Scalar.eq_iff (x y : Rat) : Scalar.eq x y = true ↔ x = y :=
  decide_eq_true_iff

@[simp] theorem Scalar.lt_iff (x y : Rat) : Scalar.lt x y = true ↔ x < y :=
  decide_eq_true_iff

@[simp] theorem Scalar.le_iff (x y : Rat) : Scalar.le x y = true ↔ x ≤ y :=
  decide_eq_true_iff

@[simp] theorem Scalar.abs_eq (x : Rat) : Scalar.abs x = |x| := by
  change (if x < 0 then -x else x) = |x|
  split
  · exact (abs_of_neg ‹_›).symm
  · exact (abs_of_nonneg (not_lt.1 ‹_›)).symm

@[simp] theorem Scalar.isNegligible_iff (tolerance x : Rat) : Scalar.isNegligible tolerance x = true ↔ |x| ≤ tolerance := by
  rw [isNegligible, le_iff, abs_eq]

@[simp] theorem Scalar.isSizeable_iff (tolerance x : Rat) : Scalar.isSizeable tolerance x = true ↔ tolerance < |x| := by
  rw [isSizeable, lt_iff, abs_eq]

namespace Grid

variable {r c k n : Nat}

def toMatrix (g : Grid Rat r c) : Matrix (Fin r) (Fin c) Rat :=
  Matrix.of fun i j => g.entry i j

@[simp] theorem toMatrix_apply (g : Grid Rat r c) (i : Fin r) (j : Fin c) : g.toMatrix i j = g.entry i j := rfl

theorem toMatrix_injective : Function.Injective (toMatrix (r := r) (c := c)) := by
  intro g h same
  ext i j
  exact congrFun (congrFun same i) j

@[simp] theorem toMatrix_identity : (identity : Grid Rat n n).toMatrix = 1 := by
  ext i j
  rw [toMatrix_apply, entry_identity, Matrix.one_apply]

@[simp] theorem toMatrix_add (g h : Grid Rat r c) : (g.zipWith (· + ·) h).toMatrix = g.toMatrix + h.toMatrix := by
  ext i j
  exact entry_zipWith _ g h i j

@[simp] theorem toMatrix_mul (g : Grid Rat r k) (h : Grid Rat k c) :
    (g.mul h).toMatrix = g.toMatrix * h.toMatrix := by
  ext i j
  rw [toMatrix_apply, entry_mul, Scalar.sum_eq, Matrix.mul_apply, ← List.ofFn_eq_map, List.sum_ofFn]
  rfl

@[simp] theorem toMatrix_scale (factor : Rat) (g : Grid Rat r c) : (g.scale factor).toMatrix = factor • g.toMatrix := by
  ext i j
  rw [toMatrix_apply, entry_scale, Matrix.smul_apply, smul_eq_mul, mul_comm]
  rfl

end Grid

end Polyhedra
