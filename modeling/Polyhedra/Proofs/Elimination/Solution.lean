import Mathlib
import Polyhedra.Elimination.Solution
import Polyhedra.Proofs.Elimination.Independence
import Polyhedra.Proofs.Elimination.RowOperations

/-!
# Solutions and inverses are right

The downward run brings a system into unit upper triangular form by row operations, the upward run clears what is
left above the diagonal. Together they multiply by an inverse of the coefficients, so the right-hand sides end up as
the solution. A run ends early only at a column that vanishes from the diagonal down.
-/

namespace Polyhedra

open Matrix

/-! ### Sweeps over the columns -/

/-- What every step of a sweep carries on from one column to the next holds at its end, or before the step that fails. -/
theorem sweep_induction {ε σ : Type} {n : Nat} (step : σ → Fin n → Except ε σ) (s : σ) (motive : Nat → σ → Prop)
    (start : motive 0 s) (next : ∀ (p : Fin n) (s t : σ), motive p s → step s p = .ok t → motive (p + 1) t) :
    match (List.finRange n).foldlM step s with
    | .ok t => motive n t
    | .error e => ∃ (p : Fin n) (t : σ), motive p t ∧ step t p = .error e := by
  induction n generalizing s motive with
  | zero => exact start
  | succ n ih =>
    rw [List.finRange_succ, List.foldlM_cons]
    cases first : step s 0 with
    | error e => exact ⟨0, s, start, first⟩
    | ok t =>
      have rest := ih (fun s p => step s p.succ) t (fun k => motive (k + 1)) (next 0 s t start first)
        fun p => next p.succ
      have shifted : ((List.finRange n).map Fin.succ).foldlM step t =
          (List.finRange n).foldlM (fun s p => step s p.succ) t := List.foldlM_map
      rw [← shifted] at rest
      change match ((List.finRange n).map Fin.succ).foldlM step t with
        | .ok t => motive (n + 1) t
        | .error e => ∃ (p : Fin (n + 1)) (t : σ), motive p t ∧ step t p = .error e
      split at rest
      · exact rest
      · obtain ⟨p, u, hu, fails⟩ := rest
        exact ⟨p.succ, u, hu, fails⟩

/-- The same from the last column back to the first. -/
theorem backward_sweep_induction {σ : Type} {n : Nat} (step : σ → Fin n → σ) (s : σ) (motive : Nat → σ → Prop)
    (start : motive n s) (next : ∀ (p : Fin n) (s : σ), motive (p + 1) s → motive p (step s p)) :
    motive 0 ((List.finRange n).reverse.foldl step s) := by
  rw [List.foldl_reverse]
  induction n generalizing motive with
  | zero => exact start
  | succ n ih =>
    rw [List.finRange_succ, List.foldr_cons, List.foldr_map]
    exact next 0 _ (ih (fun s p => step s p.succ) (fun k => motive (k + 1)) start fun p => next p.succ)

structure Grid.IsUnitUpper {n : Nat} (g : Grid Rat n n) (done : Nat) : Prop where
  diagonal : ∀ j : Fin n, j < done → g.entry j j = 1
  below : ∀ i j : Fin n, j < done → j < i → g.entry i j = 0

namespace System

variable {n k : Nat} {tolerance : Rat} {s t : System Rat n n k} {p : Fin n}

/-! ### The downward run -/

theorem rowEquivalent_swapRows (s : System Rat n n k) (i j : Fin n) : RowEquivalent s (s.swapRows i j) :=
  ⟨_, Grid.isUnit_permMatrix _, Grid.toMatrix_swapRows _ i j, Grid.toMatrix_swapRows _ i j⟩

theorem swapRows_isUnitUpper (upper : s.left.IsUnitUpper p) {i : Fin n} (hi : p < i) :
    (s.swapRows p i).left.IsUnitUpper p := by
  refine ⟨?_, ?_⟩
  · intro j hj
    rw [swapRows, Grid.entry_swapRows, if_neg (by omega), if_neg (by omega)]
    exact upper.diagonal j hj
  · intro a j hj ha
    rw [swapRows, Grid.entry_swapRows]
    split
    · exact upper.below i j hj (by omega)
    · split
      · exact upper.below p j hj (by omega)
      · exact upper.below a j hj ha

theorem pivot_ok (nonneg : 0 ≤ tolerance) (upper : s.left.IsUnitUpper p) (h : s.pivot tolerance p = .ok t) :
    RowEquivalent s t ∧ t.left.IsUnitUpper p ∧ t.left.entry p p ≠ 0 := by
  rw [pivot] at h
  split at h
  · split at h
    · rename_i i found
      obtain ⟨below, sizeable⟩ := Grid.of_findPivot_eq_some found
      obtain rfl := Except.ok.inj h
      refine ⟨rowEquivalent_swapRows s p i, swapRows_isUnitUpper upper (by omega), ?_⟩
      rw [swapRows, Grid.entry_swapRows, if_pos rfl]
      exact abs_pos.1 (nonneg.trans_lt sizeable)
    · cases h
  · rename_i negligible
    rw [Scalar.isNegligible_iff, not_le] at negligible
    obtain rfl := Except.ok.inj h
    exact ⟨.refl s, upper, abs_pos.1 (nonneg.trans_lt negligible)⟩

/-- No pivot is found only in a column that is negligible from the diagonal down. -/
theorem pivot_error {e : Nat} (h : s.pivot tolerance p = .error e) :
    e = p ∧ ∀ i : Fin n, p ≤ i → |s.left.entry i p| ≤ tolerance := by
  rw [pivot] at h
  split at h
  · rename_i negligible
    split at h
    · cases h
    · rename_i missing
      refine ⟨(Except.error.inj h).symm, fun i hi => ?_⟩
      rcases hi.eq_or_lt with rfl | hi
      · rwa [Scalar.isNegligible_iff] at negligible
      · exact Grid.of_findPivot_eq_none missing hi
  · cases h

theorem normalize_spec (upper : s.left.IsUnitUpper p) (nonzero : s.left.entry p p ≠ 0) :
    RowEquivalent s (s.normalize p p) ∧ (s.normalize p p).left.IsUnitUpper p ∧
      (s.normalize p p).left.entry p p = 1 := by
  rw [normalize]
  split
  · rename_i one
    exact ⟨.refl s, upper, (Scalar.eq_iff _ _).1 one⟩
  · refine ⟨⟨_, Grid.isUnit_rowDivision p nonzero, Grid.toMatrix_divideRow _ _ _ _ fun j hj => upper.below p j hj hj,
      Grid.toMatrix_divideRow _ _ _ _ fun j hj => absurd hj (Nat.not_lt_zero _)⟩, ⟨?_, ?_⟩, ?_⟩
    · intro j hj
      rw [Grid.entry_divideRow, if_neg (by omega)]
      exact upper.diagonal j hj
    · intro i j hj hi
      rw [Grid.entry_divideRow, if_neg (by omega)]
      exact upper.below i j hj hi
    · rw [Grid.entry_divideRow, if_pos ⟨rfl, le_rfl⟩]
      exact div_self nonzero

theorem clearBelow_spec (upper : s.left.IsUnitUpper p) (one : s.left.entry p p = 1) :
    RowEquivalent s (s.clearBelow p p) ∧ (s.clearBelow p p).left.IsUnitUpper (p + 1) := by
  refine ⟨?_, ?_, ?_⟩
  · have own : (s.left.multipliersBelow p p).get p = none := by
      rw [Grid.get_multipliersBelow, if_neg fun h => lt_irrefl p h.1]
    exact ⟨_, Grid.isUnit_rowSubtraction p own,
      Grid.toMatrix_subtractMultiples _ _ _ _ fun j hj => upper.below p j hj hj,
      Grid.toMatrix_subtractMultiples _ _ _ _ fun j hj => absurd hj (Nat.not_lt_zero _)⟩
  · intro j hj
    rw [clearBelow, Grid.entry_clearBelow, if_neg (by omega)]
    rcases Nat.lt_succ_iff_lt_or_eq.1 hj with hj | hj
    · exact upper.diagonal j hj
    · obtain rfl : j = p := Fin.ext hj
      exact one
  · intro i j hj hi
    rw [clearBelow, Grid.entry_clearBelow]
    rcases Nat.lt_succ_iff_lt_or_eq.1 hj with hj | hj
    · rw [if_neg (by omega)]
      exact upper.below i j hj hi
    · obtain rfl : j = p := Fin.ext hj
      rw [if_pos ⟨hi, le_rfl⟩, one, div_one, mul_one, sub_self]

theorem reduceStep_ok (nonneg : 0 ≤ tolerance) (upper : s.left.IsUnitUpper p)
    (h : s.reduceStep tolerance p = .ok t) : RowEquivalent s t ∧ t.left.IsUnitUpper (p + 1) := by
  rw [reduceStep] at h
  cases found : s.pivot tolerance p with
  | error e =>
    rw [found] at h
    cases h
  | ok u =>
    rw [found] at h
    obtain rfl := Except.ok.inj h
    obtain ⟨exchanged, upper, nonzero⟩ := pivot_ok nonneg upper found
    obtain ⟨divided, upper, one⟩ := normalize_spec upper nonzero
    obtain ⟨cleared, upper⟩ := clearBelow_spec upper one
    exact ⟨exchanged.trans (divided.trans cleared), upper⟩

theorem reduceStep_error {e : Nat} (h : s.reduceStep tolerance p = .error e) :
    e = p ∧ ∀ i : Fin n, p ≤ i → |s.left.entry i p| ≤ tolerance := by
  rw [reduceStep] at h
  cases missing : s.pivot tolerance p with
  | error e' =>
    rw [missing] at h
    obtain rfl := Except.error.inj h
    exact pivot_error missing
  | ok u =>
    rw [missing] at h
    cases h

/-- The downward run ends in unit upper triangular form, or at a column that is negligible from the diagonal down once
the columns before it have that form. -/
theorem reduce_spec (nonneg : 0 ≤ tolerance) (s : System Rat n n k) :
    match s.reduce tolerance with
    | .ok t => RowEquivalent s t ∧ t.left.IsUnitUpper n
    | .error e => ∃ (p : Fin n) (t : System Rat n n k), RowEquivalent s t ∧ t.left.IsUnitUpper p ∧ e = p ∧
        ∀ i : Fin n, p ≤ i → |t.left.entry i p| ≤ tolerance := by
  have start : s.left.IsUnitUpper 0 :=
    ⟨fun j hj => absurd hj (Nat.not_lt_zero _), fun i j hj => absurd hj (Nat.not_lt_zero _)⟩
  have sweep := sweep_induction (reduceStep tolerance) s (fun p t => RowEquivalent s t ∧ t.left.IsUnitUpper p)
    ⟨.refl s, start⟩ fun p t u ⟨so_far, upper⟩ h =>
      have ⟨step, upper⟩ := reduceStep_ok nonneg upper h
      ⟨so_far.trans step, upper⟩
  rw [reduce]
  cases run : (List.finRange n).foldlM (reduceStep tolerance) s with
  | ok t =>
    rw [run] at sweep
    exact sweep
  | error e =>
    rw [run] at sweep
    obtain ⟨p, t, ⟨so_far, upper⟩, fails⟩ := sweep
    obtain ⟨rfl, small⟩ := reduceStep_error fails
    exact ⟨p, t, so_far, upper, rfl, small⟩

/-! ### The upward run -/

/-- Clearing a column above a pivot is a combination of rows, whatever the pivot is and however the system is shaped. -/
theorem rowEquivalent_clearAbove {r c : Nat} (s : System Rat r c k) (row : Fin r) (col : Fin c) :
    RowEquivalent s (s.clearAbove row col) := by
  have own : (s.left.multipliersAbove row col).get row = none := by
    rw [Grid.multipliersAbove, get_ofFn, if_neg fun h => lt_irrefl row h.1]
  exact ⟨_, Grid.isUnit_rowSubtraction row own,
    Grid.toMatrix_subtractMultiples _ _ _ _ fun j hj => absurd hj (Nat.not_lt_zero _),
    Grid.toMatrix_subtractMultiples _ _ _ _ fun j hj => absurd hj (Nat.not_lt_zero _)⟩

theorem clearAbove_spec (upper : s.left.IsUnitUpper n)
    (clear : ∀ i j : Fin n, (p : Nat) + 1 ≤ j → i < j → s.left.entry i j = 0) :
    RowEquivalent s (s.clearAbove p p) ∧ (s.clearAbove p p).left.IsUnitUpper n ∧
      ∀ i j : Fin n, p ≤ j → i < j → (s.clearAbove p p).left.entry i j = 0 := by
  have row (j : Fin n) : s.left.entry p j = if j = p then 1 else 0 := by
    split
    · rename_i same
      rw [same]
      exact upper.diagonal p p.isLt
    · rcases lt_or_gt_of_ne ‹j ≠ p› with hj | hj
      · exact upper.below p j j.isLt hj
      · exact clear p j hj hj
  have entry (i j : Fin n) : (s.clearAbove p p).left.entry i j =
      if i < p ∧ j = p then 0 else s.left.entry i j := by
    rw [clearAbove, Grid.entry_clearAbove, row]
    by_cases hi : i < p
    · rw [if_pos hi]
      by_cases hj : j = p
      · rw [if_pos hj, if_pos ⟨hi, hj⟩, hj, mul_one, sub_self]
      · rw [if_neg hj, if_neg fun h => hj h.2, mul_zero, sub_zero]
    · rw [if_neg hi, if_neg fun h => hi h.1]
  refine ⟨rowEquivalent_clearAbove s p p, ⟨?_, ?_⟩, ?_⟩
  · intro j hj
    rw [entry, if_neg (by omega)]
    exact upper.diagonal j hj
  · intro i j hj hi
    rw [entry, if_neg (by omega)]
    exact upper.below i j hj hi
  · intro i j hj hi
    rw [entry]
    split
    · rfl
    · exact clear i j (by omega) hi

theorem backSubstitute_spec (upper : s.left.IsUnitUpper n) :
    RowEquivalent s s.backSubstitute ∧ s.backSubstitute.left.toMatrix = 1 := by
  have sweep := backward_sweep_induction (fun (t : System Rat n n k) p => t.clearAbove p p) s
    (fun p t => RowEquivalent s t ∧ t.left.IsUnitUpper n ∧
      ∀ i j : Fin n, p ≤ j → i < j → t.left.entry i j = 0)
    ⟨.refl s, upper, fun i j hj => absurd j.isLt (not_lt.2 hj)⟩ fun p t ⟨so_far, upper, clear⟩ =>
      have ⟨step, upper, clear⟩ := clearAbove_spec upper clear
      ⟨so_far.trans step, upper, clear⟩
  obtain ⟨equivalent, upper, clear⟩ := sweep
  refine ⟨equivalent, ?_⟩
  ext i j
  rw [Grid.toMatrix_apply, one_apply]
  rcases lt_trichotomy i j with hij | rfl | hij
  · rw [if_neg hij.ne]
    exact clear i j (Nat.zero_le _) hij
  · rw [if_pos rfl]
    exact upper.diagonal i i.isLt
  · rw [if_neg hij.ne']
    exact upper.below i j j.isLt hij

end System

namespace Grid

variable {n k : Nat} {tolerance : Rat} {g : Grid Rat n n}

/-! ### Solutions and inverses -/

/-- A solution is the product of an inverse of the coefficients with the right-hand sides. -/
theorem solve_ok (nonneg : 0 ≤ tolerance) {rightSide solution : Grid Rat n k}
    (h : g.solve tolerance rightSide = .ok solution) :
    ∃ E : Matrix (Fin n) (Fin n) Rat, E * g.toMatrix = 1 ∧ solution.toMatrix = E * rightSide.toMatrix := by
  have down := System.reduce_spec nonneg ⟨g, rightSide⟩
  rw [solve] at h
  split at down
  · rename_i t reduced
    rw [reduced] at h
    obtain rfl := Except.ok.inj h
    obtain ⟨up, one⟩ := System.backSubstitute_spec down.2
    obtain ⟨E, _, left, right⟩ := down.1.trans up
    exact ⟨E, left.symm.trans one, right⟩
  · rename_i e failed
    rw [failed] at h
    cases h

/-- Without a tolerance, the column without a pivot is the first one that depends on those before it. -/
theorem isLeast_dependent_of_solve_error {rightSide : Grid Rat n k} {e : Nat}
    (h : g.solve 0 rightSide = .error e) :
    e < n ∧ IsLeast {k : Nat | ¬LinearIndepOn Rat g.toMatrix.col {j | (j : Nat) ≤ k}} e := by
  have down := System.reduce_spec le_rfl ⟨g, rightSide⟩
  rw [solve] at h
  split at down
  · rename_i t reduced
    rw [reduced] at h
    cases h
  · rename_i column failed
    rw [failed] at h
    obtain rfl : column = e := Except.error.inj h
    obtain ⟨p, t, ⟨E, unit, left, _⟩, upper, rfl, small⟩ := down
    have columns (S : Set (Fin n)) : LinearIndepOn Rat g.toMatrix.col S ↔ LinearIndepOn Rat t.left.toMatrix.col S := by
      rw [left, linearIndepOn_col_mul unit]
    simp only [columns]
    refine ⟨p.isLt, isLeast_dependent_of_stuck p.isLt.le upper.below ?_ fun i hi => abs_nonpos_iff.1 (small i hi)⟩
    intro i j hj hij
    obtain rfl : i = j := Fin.ext hij
    rw [toMatrix_apply, upper.diagonal i hj]
    exact one_ne_zero

/-- Only singular coefficients have no solution when nothing but zero is negligible. -/
theorem not_isUnit_of_solve_error {rightSide : Grid Rat n k} {e : Nat}
    (h : g.solve 0 rightSide = .error e) : ¬ IsUnit g.toMatrix := by
  obtain ⟨_, dependent, _⟩ := isLeast_dependent_of_solve_error h
  intro unit
  exact dependent ((linearIndependent_cols_iff_isUnit.2 unit).linearIndepOn _)

theorem inverse_ok (nonneg : 0 ≤ tolerance) {inv : Grid Rat n n} (h : g.inverse tolerance = .ok inv) :
    inv.toMatrix * g.toMatrix = 1 := by
  obtain ⟨E, left, right⟩ := solve_ok nonneg h
  rw [toMatrix_identity, Matrix.mul_one] at right
  rw [right, left]

/-- Inversion succeeds on exactly the invertible grids when nothing but zero is negligible. -/
theorem inverse_isOk_iff : (∃ inv, g.inverse 0 = .ok inv) ↔ IsUnit g.toMatrix := by
  refine ⟨?_, ?_⟩
  · intro h
    obtain ⟨inv, h⟩ := h
    exact IsUnit.of_mul_eq_one_right _ (inverse_ok le_rfl h)
  · intro unit
    cases h : g.inverse 0 with
    | ok inv => exact ⟨inv, rfl⟩
    | error e => exact absurd unit (not_isUnit_of_solve_error h)

end Grid

end Polyhedra
