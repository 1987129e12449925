import Mathlib
import Polyhedra.Elimination.System
import Polyhedra.Proofs.ExactGrid

/-!
# Elimination steps as row operations

Over the rational numbers every step of elimination multiplies coefficients and right-hand sides from the left by
one and the same invertible matrix. A step that leaves the columns before a pivot alone is of this kind as well, as
soon as the pivot row is zero there. What a whole run does follows by composition.
-/

namespace Polyhedra

open Matrix

variable {r c k n : Nat}

namespace System

/-- Coefficients and right-hand sides of `t` come from those of `s` by one invertible combination of rows. -/
def RowEquivalent (s t : System Rat r c k) : Prop :=
  ∃ E : Matrix (Fin r) (Fin r) Rat,
    IsUnit E ∧ t.left.toMatrix = E * s.left.toMatrix ∧ t.right.toMatrix = E * s.right.toMatrix

theorem RowEquivalent.refl (s : System Rat r c k) : RowEquivalent s s :=
  ⟨1, isUnit_one, (Matrix.one_mul _).symm, (Matrix.one_mul _).symm⟩

theorem RowEquivalent.trans {s t u : System Rat r c k} (hst : RowEquivalent s t) (htu : RowEquivalent t u) :
    RowEquivalent s u := by
  obtain ⟨E, hE, hleft, hright⟩ := hst
  obtain ⟨F, hF, hleft', hright'⟩ := htu
  refine ⟨F * E, hF.mul hE, ?_, ?_⟩
  · rw [hleft', hleft, Matrix.mul_assoc]
  · rw [hright', hright, Matrix.mul_assoc]

end System

namespace Grid

/-! ### Pivots and multipliers -/

theorem passes_of_findPivot {α : Type} [Scalar α] {g : Grid α r c} {tolerance : α} {col : Fin c} {start : Nat} {i : Fin r}
    (found : g.findPivot tolerance col start = some i) :
    start ≤ i ∧ Scalar.isSizeable tolerance (g.entry i col) = true := by
  have passes := List.find?_some found
  rwa [Bool.and_eq_true, decide_eq_true_eq] at passes

theorem of_findPivot_eq_some {g : Grid Rat r c} {tolerance : Rat} {col : Fin c} {start : Nat} {i : Fin r}
    (found : g.findPivot tolerance col start = some i) : start ≤ i ∧ tolerance < |g.entry i col| := by
  have passes := passes_of_findPivot found
  rwa [Scalar.isSizeable_iff] at passes

theorem of_findPivot_eq_none {g : Grid Rat r c} {tolerance : Rat} {col : Fin c} {start : Nat}
    (missing : g.findPivot tolerance col start = none) {i : Fin r} (hi : start ≤ i) : |g.entry i col| ≤ tolerance := by
  have fails := List.find?_eq_none.1 missing i (List.mem_finRange i)
  rw [Bool.and_eq_true, decide_eq_true_eq, Scalar.isSizeable_iff] at fails
  exact not_lt.1 fun large => fails ⟨hi, large⟩

theorem get_multipliersBelow (g : Grid Rat r c) (row : Fin r) (col : Fin c) (i : Fin r) :
    (g.multipliersBelow row col).get i =
      if row < i ∧ g.entry i col ≠ 0 then some (g.entry i col / g.entry row col) else none := by
  rw [multipliersBelow, get_ofFn]
  simp only [← Bool.not_eq_true, Scalar.eq_iff]

/-- A row that is passed over, its entry being zero, has the multiplier that the division gives. -/
theorem getD_multipliersBelow (g : Grid Rat r c) (row : Fin r) (col : Fin c) (i : Fin r) :
    ((g.multipliersBelow row col).get i).getD 0 = if row < i then g.entry i col / g.entry row col else 0 := by
  rw [get_multipliersBelow]
  by_cases hi : row < i
  · rw [if_pos hi]
    by_cases zero : g.entry i col = 0
    · rw [if_neg fun h => h.2 zero, zero, zero_div]
      rfl
    · rw [if_pos ⟨hi, zero⟩]
      rfl
  · rw [if_neg fun h => hi h.1, if_neg hi]
    rfl

theorem entry_subtractMultiples_getD (g : Grid Rat r c) (row i : Fin r) (start : Nat)
    (multipliers : Vector (Option Rat) r) (j : Fin c) : (g.subtractMultiples row start multipliers).entry i j =
      if start ≤ j then g.entry i j - (multipliers.get i).getD 0 * g.entry row j else g.entry i j := by
  rw [entry_subtractMultiples]
  cases multipliers.get i with
  | none => rw [Option.getD_none, zero_mul, sub_zero, ite_self]
  | some m => rfl

/-- What clearing a column of `g` does to a grid with the same rows, which may be `g` or its right-hand sides. -/
theorem entry_clearBelow (g : Grid Rat r c) (h : Grid Rat r k) (row : Fin r) (col : Fin c) (start : Nat) (i : Fin r)
    (j : Fin k) : (h.subtractMultiples row start (g.multipliersBelow row col)).entry i j =
      if row < i ∧ start ≤ j then h.entry i j - g.entry i col / g.entry row col * h.entry row j else h.entry i j := by
  rw [entry_subtractMultiples_getD, getD_multipliersBelow]
  by_cases hi : row < i
  · rw [if_pos hi]
    exact if_congr (and_iff_right hi).symm rfl rfl
  · rw [if_neg hi, zero_mul, sub_zero, ite_self, if_neg fun h => hi h.1]

theorem getD_multipliersAbove (g : Grid Rat r c) (row : Fin r) (col : Fin c) (i : Fin r) :
    ((g.multipliersAbove row col).get i).getD 0 = if i < row then g.entry i col else 0 := by
  rw [multipliersAbove, get_ofFn]
  simp only [← Bool.not_eq_true, Scalar.eq_iff]
  by_cases zero : g.entry i col = 0
  · simp [zero]
  · by_cases hi : i < row <;> simp [zero, hi]

/-- What clearing a column of `g` above a pivot that is one does to a grid with the same rows. -/
theorem entry_clearAbove (g : Grid Rat r c) (h : Grid Rat r k) (row : Fin r) (col : Fin c) (i : Fin r) (j : Fin k) :
    (h.subtractMultiples row 0 (g.multipliersAbove row col)).entry i j =
      if i < row then h.entry i j - g.entry i col * h.entry row j else h.entry i j := by
  rw [entry_subtractMultiples_getD, getD_multipliersAbove, if_pos (Nat.zero_le _)]
  by_cases hi : i < row
  · rw [if_pos hi, if_pos hi]
  · rw [if_neg hi, if_neg hi, zero_mul, sub_zero]

/-! ### The matrix of a step -/

theorem isUnit_permMatrix (σ : Equiv.Perm (Fin r)) : IsUnit (σ.permMatrix Rat) := by
  rw [isUnit_iff_isUnit_det, det_permutation]
  exact σ.sign.isUnit.map (Int.castRingHom Rat)

theorem toMatrix_swapRows (g : Grid Rat r c) (i j : Fin r) :
    (g.swapRows i j).toMatrix = (Equiv.swap i j).permMatrix Rat * g.toMatrix := by
  rw [PEquiv.toMatrix_toPEquiv_mul]
  ext a b
  simp only [toMatrix_apply, entry_swapRows, submatrix_apply, id_eq, Equiv.swap_apply_def]

def rowDivision (row : Fin r) (divisor : Rat) : Matrix (Fin r) (Fin r) Rat :=
  Matrix.diagonal fun i => if i = row then divisor⁻¹ else 1

theorem isUnit_rowDivision (row : Fin r) {divisor : Rat} (h : divisor ≠ 0) : IsUnit (rowDivision row divisor) := by
  rw [rowDivision, isUnit_diagonal, Pi.isUnit_iff]
  intro i
  split
  · exact (inv_ne_zero h).isUnit
  · exact isUnit_one

theorem toMatrix_divideRow (g : Grid Rat r c) (row : Fin r) (start : Nat) (divisor : Rat)
    (clear : ∀ j : Fin c, j < start → g.entry row j = 0) :
    (g.divideRow row start divisor).toMatrix = rowDivision row divisor * g.toMatrix := by
  ext i j
  rw [rowDivision, diagonal_mul, toMatrix_apply, toMatrix_apply, entry_divideRow]
  by_cases hi : i = row
  · subst i
    by_cases hj : start ≤ j
    · rw [if_pos ⟨rfl, hj⟩, if_pos rfl, div_eq_inv_mul]
    · rw [if_neg fun h => hj h.2, clear j (by omega), mul_zero]
  · rw [if_neg fun h => hi h.1, if_neg hi, one_mul]

def rowSubtraction (row : Fin r) (multipliers : Vector (Option Rat) r) : Matrix (Fin r) (Fin r) Rat :=
  1 - vecMulVec (fun i => (multipliers.get i).getD 0) (Pi.single row 1)

theorem isUnit_rowSubtraction (row : Fin r) {multipliers : Vector (Option Rat) r}
    (h : multipliers.get row = none) : IsUnit (rowSubtraction row multipliers) := by
  refine IsNilpotent.isUnit_one_sub ⟨2, ?_⟩
  rw [pow_two, vecMulVec_mul_vecMulVec, single_one_dotProduct, h, Option.getD_none, zero_smul, vecMulVec_zero]

theorem toMatrix_subtractMultiples (g : Grid Rat r c) (row : Fin r) (start : Nat)
    (multipliers : Vector (Option Rat) r) (clear : ∀ j : Fin c, j < start → g.entry row j = 0) :
    (g.subtractMultiples row start multipliers).toMatrix = rowSubtraction row multipliers * g.toMatrix := by
  ext i j
  rw [rowSubtraction, Matrix.sub_mul, Matrix.one_mul, vecMulVec_mul, single_one_vecMul, Matrix.sub_apply, vecMulVec_apply,
    row_apply, toMatrix_apply, toMatrix_apply, toMatrix_apply, entry_subtractMultiples_getD]
  by_cases hj : start ≤ j
  · rw [if_pos hj]
  · rw [if_neg hj, clear j (by omega), mul_zero, sub_zero]

end Grid

end Polyhedra
