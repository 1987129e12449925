import Mathlib
import Polyhedra.DenseMatrix.Elimination
import Polyhedra.Proofs.Elimination.Solution

/-!
# Triangular factors are right

Before every column the rearranged grid is the product of the two factors, whatever its shape. An exchange rearranges
the rows on both sides; since the lower factor is still that of the identity from the pivot's column on, exchanging rows
and columns of it amounts to moving the multiples recorded so far. Clearing a column moves an invertible combination of
rows from the upper into the lower factor.
-/

namespace Polyhedra

open Matrix

variable {r c : Nat} {tolerance : Rat}

/-- The matrix that gives back the multiples of a row which were taken from other rows. -/
def Grid.rowAddition (row : Fin r) (multipliers : Vector (Option Rat) r) : Matrix (Fin r) (Fin r) Rat :=
  1 + vecMulVec (fun i => (multipliers.get i).getD 0) (Pi.single row 1)

theorem Grid.rowAddition_mul_rowSubtraction {row : Fin r} {multipliers : Vector (Option Rat) r}
    (own : multipliers.get row = none) : rowAddition row multipliers * rowSubtraction row multipliers = 1 := by
  rw [rowAddition, rowSubtraction, Matrix.add_mul, Matrix.mul_sub, Matrix.mul_sub, vecMulVec_mul_vecMulVec,
    single_one_dotProduct, own, Option.getD_none, zero_smul, vecMulVec_zero]
  simp

namespace Factors

variable {f : Factors Rat r c} {g : Grid Rat r c} {row : Fin r} {col : Fin c} {done : Nat}

/-- The factors of a grid, as far as some columns are cleared. -/
structure Resolves (f : Factors Rat r c) (g : Grid Rat r c) (tolerance : Rat) (done : Nat) : Prop where
  product : f.permutation.toMatrix * g.toMatrix = f.lower.toMatrix * f.upper.toMatrix
  lower : ∀ i j : Fin r, i ≤ j ∨ done ≤ j → f.lower.entry i j = if i = j then 1 else 0
  upper : ∀ (i : Fin r) (j : Fin c), (j : Nat) < done → (j : Nat) < i → f.upper.entry i j = 0
  pivots : ∀ (i : Fin r) (j : Fin c), (j : Nat) < done → (i : Nat) = j → tolerance < |f.upper.entry i j|
  order : ∃ σ : Equiv.Perm (Fin r), f.order.get = σ ∧ σ.sign = (-1) ^ f.swaps ∧ (f.swaps = 0 → σ = 1)

theorem toMatrix_permutation {σ : Equiv.Perm (Fin r)} (order : f.order.get = σ) :
    f.permutation.toMatrix = σ.permMatrix Rat := by
  ext i j
  rw [Grid.toMatrix_apply, permutation, Grid.entry_build, order, Equiv.Perm.permMatrix, PEquiv.toMatrix_toPEquiv_apply,
    Pi.single_apply]
  exact if_congr eq_comm rfl rfl

theorem resolves_start (g : Grid Rat r c) (tolerance : Rat) : (start g).Resolves g tolerance 0 := by
  have order : (start g).order.get = (1 : Equiv.Perm (Fin r)) := by
    funext i
    exact get_ofFn id i
  refine ⟨?_, ?_, ?_, ?_, 1, order, ?_, fun _ => rfl⟩
  · rw [toMatrix_permutation order, permMatrix_one, start, Grid.toMatrix_identity]
  · intro i j _
    exact Grid.entry_identity i j
  · exact fun i j hj => absurd hj (Nat.not_lt_zero _)
  · exact fun i j hj => absurd hj (Nat.not_lt_zero _)
  · exact Equiv.Perm.sign_one

/-! ### Exchanging rows -/

theorem le_swap {i j : Fin r} (hi : row < i) (hj : row ≤ j) : row ≤ Equiv.swap row i j := by
  rw [Equiv.swap_apply_def]
  split_ifs
  · exact hi.le
  · exact le_rfl
  · exact hj

theorem entry_lower_exchange {α : Type} [Scalar α] (f : Factors α r c) (row i a b : Fin r) :
    (f.exchange row i).lower.entry a b = if b < row then f.lower.entry (Equiv.swap row i a) b else f.lower.entry a b := by
  rw [exchange, Grid.entry_build, Grid.entry_swapRows, ← Equiv.swap_apply_def]

/-- Exchanging columns too, the lower factor has the same rows exchanged: where it still is the identity, both together
change nothing, and before that no column moves. -/
theorem lower_exchange_mul (lower : ∀ i j : Fin r, i ≤ j ∨ row ≤ j → f.lower.entry i j = if i = j then 1 else 0)
    {i : Fin r} (hi : row < i) : (f.exchange row i).lower.toMatrix * (Equiv.swap row i).permMatrix Rat =
      (Equiv.swap row i).permMatrix Rat * f.lower.toMatrix := by
  rw [PEquiv.mul_toMatrix_toPEquiv, Equiv.symm_swap, PEquiv.toMatrix_toPEquiv_mul]
  ext a b
  rw [submatrix_apply, submatrix_apply, id, id, Grid.toMatrix_apply, Grid.toMatrix_apply, entry_lower_exchange]
  by_cases before : b < row
  · rw [Equiv.swap_apply_of_ne_of_ne (show b ≠ row by omega) (show b ≠ i by omega), if_pos before]
  · rw [not_lt] at before
    rw [if_neg (not_lt.2 (le_swap hi before)), lower _ _ (.inr (le_swap hi before)), lower _ _ (.inr before)]
    exact if_congr ((Equiv.swap row i).eq_symm_apply (x := b)) rfl rfl

theorem resolves_exchange (h : f.Resolves g tolerance row) {i : Fin r} (hi : row < i) :
    (f.exchange row i).Resolves g tolerance row := by
  obtain ⟨σ, order, sign, _⟩ := h.order
  have order' : (f.exchange row i).order.get = (σ * Equiv.swap row i : Equiv.Perm (Fin r)) := by
    funext a
    rw [exchange, get_ofFn, ← Equiv.swap_apply_def, order, Equiv.Perm.mul_apply]
  refine ⟨?_, ?_, ?_, ?_, σ * Equiv.swap row i, order', ?_, ?_⟩
  · have upper : (f.exchange row i).upper.toMatrix = (Equiv.swap row i).permMatrix Rat * f.upper.toMatrix :=
      Grid.toMatrix_swapRows f.upper row i
    rw [upper, ← Matrix.mul_assoc, lower_exchange_mul h.lower hi, Matrix.mul_assoc, ← h.product,
      toMatrix_permutation order', toMatrix_permutation order, permMatrix_mul, Matrix.mul_assoc]
  · intro a b hab
    rw [entry_lower_exchange]
    by_cases before : b < row
    · rw [if_pos before, Equiv.swap_apply_of_ne_of_ne (by omega) (by omega)]
      exact h.lower a b hab
    · rw [if_neg before]
      exact h.lower a b hab
  · intro a b hb ha
    rw [exchange, Grid.entry_swapRows]
    split_ifs
    · exact h.upper i b hb (by omega)
    · exact h.upper row b hb (by omega)
    · exact h.upper a b hb ha
  · intro a b hb hab
    rw [exchange, Grid.entry_swapRows, if_neg (by omega), if_neg (by omega)]
    exact h.pivots a b hb hab
  · rw [Equiv.Perm.sign_mul, sign, Equiv.Perm.sign_swap hi.ne, exchange, pow_succ]
  · exact fun unmoved => absurd unmoved (Nat.succ_ne_zero _)

/-! ### Clearing a column -/

/-- The lower factor leaves the multiples of a step as they are, since they stand beneath the pivot. -/
theorem lower_mulVec_multipliers (lower : ∀ i j : Fin r, i ≤ j ∨ row ≤ j → f.lower.entry i j = if i = j then 1 else 0) :
    f.lower.toMatrix *ᵥ (fun i => ((f.upper.multipliersBelow row col).get i).getD 0) =
      fun i => ((f.upper.multipliersBelow row col).get i).getD 0 := by
  conv_rhs => rw [← one_mulVec fun i => ((f.upper.multipliersBelow row col).get i).getD 0]
  funext a
  rw [mulVec, mulVec, dotProduct, dotProduct]
  apply Finset.sum_congr rfl
  intro k _
  by_cases hk : row < k
  · rw [Grid.toMatrix_apply, lower a k (.inr hk.le), one_apply]
  · rw [Grid.getD_multipliersBelow, if_neg hk, mul_zero, mul_zero]

theorem toMatrix_lower_clear (lower : ∀ i j : Fin r, i ≤ j ∨ row ≤ j → f.lower.entry i j = if i = j then 1 else 0)
    (same : (row : Nat) = col) : (f.clear row col).lower.toMatrix =
      f.lower.toMatrix * Grid.rowAddition row (f.upper.multipliersBelow row col) := by
  rw [Grid.rowAddition, Matrix.mul_add, Matrix.mul_one, mul_vecMulVec, lower_mulVec_multipliers lower]
  ext a b
  rw [Matrix.add_apply, vecMulVec_apply, Grid.toMatrix_apply, Grid.toMatrix_apply, clear, Grid.entry_build, ← same]
  by_cases hb : b = row
  · subst b
    rw [Pi.single_eq_same, mul_one]
    by_cases ha : row < a
    · rw [if_pos ⟨ha, rfl⟩, lower a row (.inr le_rfl), if_neg ha.ne', zero_add]
    · rw [if_neg fun h => ha h.1, Grid.getD_multipliersBelow, if_neg ha, add_zero]
  · rw [if_neg fun h => hb (Fin.ext h.2), Pi.single_eq_of_ne hb, mul_zero, add_zero]

theorem resolves_clear (h : f.Resolves g tolerance row) (nonneg : 0 ≤ tolerance) (same : (row : Nat) = col)
    (large : tolerance < |f.upper.entry row col|) : (f.clear row col).Resolves g tolerance (row + 1) := by
  have entry (i : Fin r) (j : Fin c) : (f.clear row col).upper.entry i j =
      if row < i ∧ col ≤ j then f.upper.entry i j - f.upper.entry i col / f.upper.entry row col * f.upper.entry row j
      else f.upper.entry i j := Grid.entry_clearBelow f.upper f.upper row col col i j
  refine ⟨?_, ?_, ?_, ?_, h.order⟩
  · -- What the upper factor loses from the left, the lower one takes up on its right.
    have own : (f.upper.multipliersBelow row col).get row = none := by
      rw [Grid.get_multipliersBelow, if_neg fun h => lt_irrefl row h.1]
    have upper : (f.clear row col).upper.toMatrix =
        Grid.rowSubtraction row (f.upper.multipliersBelow row col) * f.upper.toMatrix :=
      Grid.toMatrix_subtractMultiples _ _ _ _ fun j hj => h.upper row j (by omega) (by omega)
    rw [toMatrix_lower_clear h.lower same, upper, Matrix.mul_assoc, ← Matrix.mul_assoc (Grid.rowAddition _ _),
      Grid.rowAddition_mul_rowSubtraction own, Matrix.one_mul]
    exact h.product
  · intro a b hab
    rw [clear, Grid.entry_build, if_neg (by omega)]
    exact h.lower a b (hab.imp_right fun hb => by omega)
  · intro a b hb ha
    rw [entry]
    rcases Nat.lt_succ_iff_lt_or_eq.1 hb with hb | hb
    · rw [if_neg (by omega)]
      exact h.upper a b hb ha
    · obtain rfl : b = col := Fin.ext (hb.trans same)
      rw [if_pos ⟨by omega, le_rfl⟩, div_mul_cancel₀ _ (abs_pos.1 (nonneg.trans_lt large)), sub_self]
  · intro a b hb hab
    rw [entry, if_neg (by omega)]
    rcases Nat.lt_succ_iff_lt_or_eq.1 hb with hb | hb
    · exact h.pivots a b hb hab
    · obtain rfl : b = col := Fin.ext (hb.trans same)
      obtain rfl : a = row := Fin.ext (hab.trans same.symm)
      exact large

/-! ### The run over the columns -/

/-- A step needs its pivot tested once only, since a row that is brought up has a sizeable entry. -/
theorem step_eq (f : Factors Rat r c) (tolerance : Rat) (p : Fin (min r c)) : f.step tolerance p =
    if |f.upper.entry (Grid.diagonal p).1 (Grid.diagonal p).2| ≤ tolerance then
      match f.upper.findPivot tolerance (Grid.diagonal p).2 (p + 1) with
      | some i => .ok ((f.exchange (Grid.diagonal p).1 i).clear (Grid.diagonal p).1 (Grid.diagonal p).2)
      | none => .error p
    else .ok (f.clear (Grid.diagonal p).1 (Grid.diagonal p).2) := by
  rw [step]
  simp only [Scalar.isNegligible_iff]
  by_cases negligible : |f.upper.entry (Grid.diagonal p).1 (Grid.diagonal p).2| ≤ tolerance
  · simp only [if_pos negligible]
    cases found : f.upper.findPivot tolerance (Grid.diagonal p).2 (p + 1) with
    | some i =>
      have brought : (f.exchange (Grid.diagonal p).1 i).upper.entry (Grid.diagonal p).1 (Grid.diagonal p).2 =
          f.upper.entry i (Grid.diagonal p).2 := by
        rw [exchange, Grid.entry_swapRows, if_pos rfl]
      simp only [brought]
      rw [if_neg (not_le.2 (Grid.of_findPivot_eq_some found).2)]
    | none => exact if_pos negligible
  · simp only [if_neg negligible]

theorem step_ok {p : Fin (min r c)} {t : Factors Rat r c} (h : f.Resolves g tolerance p) (nonneg : 0 ≤ tolerance)
    (run : f.step tolerance p = .ok t) : t.Resolves g tolerance (p + 1) := by
  have h : f.Resolves g tolerance (Grid.diagonal p).1 := h
  rw [step_eq] at run
  split at run
  · split at run
    · rename_i i found
      obtain ⟨below, large⟩ := Grid.of_findPivot_eq_some found
      obtain rfl := Except.ok.inj run
      apply resolves_clear (resolves_exchange h below) nonneg rfl
      rw [exchange, Grid.entry_swapRows, if_pos rfl]
      exact large
    · cases run
  · rename_i large
    obtain rfl := Except.ok.inj run
    exact resolves_clear h nonneg rfl (not_le.1 large)

theorem step_error {p : Fin (min r c)} {e : Nat} (run : f.step tolerance p = .error e) :
    e = p ∧ ∀ i : Fin r, p ≤ (i : Nat) → |f.upper.entry i (Grid.diagonal p).2| ≤ tolerance := by
  rw [step_eq] at run
  split at run
  · rename_i negligible
    split at run
    · cases run
    · rename_i missing
      refine ⟨(Except.error.inj run).symm, fun i hi => ?_⟩
      rcases hi.eq_or_lt with hi | hi
      · obtain rfl : i = (Grid.diagonal p).1 := Fin.ext hi.symm
        exact negligible
      · exact Grid.of_findPivot_eq_none missing hi
  · cases run

/-- The factors of a grid, or of its first columns when the next one is negligible from the diagonal down. -/
theorem factor_spec (nonneg : 0 ≤ tolerance) (g : Grid Rat r c) :
    match g.factor tolerance with
    | .ok f => f.Resolves g tolerance (min r c)
    | .error e => ∃ (p : Fin (min r c)) (f : Factors Rat r c), f.Resolves g tolerance p ∧ e = p ∧
        ∀ i : Fin r, p ≤ (i : Nat) → |f.upper.entry i (Grid.diagonal p).2| ≤ tolerance := by
  have sweep := sweep_induction (step tolerance) (start g) (fun p f => f.Resolves g tolerance p)
    (resolves_start g tolerance) fun p f t h run => step_ok h nonneg run
  rw [Grid.factor]
  cases run : (List.finRange (min r c)).foldlM (step tolerance) (start g) with
  | ok f =>
    rw [run] at sweep
    exact sweep
  | error e =>
    rw [run] at sweep
    obtain ⟨p, f, h, fails⟩ := sweep
    exact ⟨p, f, h, step_error fails⟩

/-! ### Independent columns -/

namespace Resolves

theorem det_lower (h : f.Resolves g tolerance done) : f.lower.toMatrix.det = ∏ i, f.lower.entry i i := by
  apply det_of_isLowerTriangular
  intro i j hij
  have hij : i < j := hij
  rw [Grid.toMatrix_apply, h.lower i j (.inl hij.le), if_neg hij.ne]

theorem isUnit_lower (h : f.Resolves g tolerance done) : IsUnit f.lower.toMatrix := by
  have diagonal (i : Fin r) : f.lower.entry i i = 1 := by
    rw [h.lower i i (.inl le_rfl), if_pos rfl]
  rw [isUnit_iff_isUnit_det, h.det_lower, Finset.prod_congr rfl fun i _ => diagonal i, Finset.prod_const_one]
  exact isUnit_one

/-- Columns are independent exactly if those of the upper factor are. -/
theorem linearIndepOn_iff (h : f.Resolves g tolerance done) (S : Set (Fin c)) :
    LinearIndepOn Rat g.toMatrix.col S ↔ LinearIndepOn Rat f.upper.toMatrix.col S := by
  obtain ⟨σ, order, _⟩ := h.order
  have product := h.product
  rw [toMatrix_permutation order] at product
  rw [← linearIndepOn_col_mul (Grid.isUnit_permMatrix σ), product, linearIndepOn_col_mul h.isUnit_lower]

theorem independent (h : f.Resolves g tolerance done) (nonneg : 0 ≤ tolerance) (rows : done ≤ r) :
    LinearIndepOn Rat g.toMatrix.col {j | (j : Nat) < done} := by
  rw [h.linearIndepOn_iff]
  apply linearIndepOn_col_of_upper rows h.upper
  intro i j hj hij
  exact abs_pos.1 (nonneg.trans_lt (h.pivots i j hj hij))

end Resolves

/-- The column without a pivot is the first one that depends on those before it. -/
theorem isLeast_dependent {e : Nat} (failed : g.factor 0 = .error e) :
    e < min r c ∧ IsLeast {k : Nat | ¬LinearIndepOn Rat g.toMatrix.col {j | (j : Nat) ≤ k}} e := by
  have spec := factor_spec le_rfl g
  rw [failed] at spec
  obtain ⟨p, f, h, rfl, small⟩ := spec
  have rows : ((Grid.diagonal p).2 : Nat) ≤ r := (Nat.lt_min.1 p.isLt).1.le
  simp only [h.linearIndepOn_iff]
  refine ⟨p.isLt, isLeast_dependent_of_stuck rows h.upper ?_ fun i hi => abs_nonpos_iff.1 (small i hi)⟩
  intro i j hj hij
  exact abs_pos.1 (h.pivots i j hj hij)

end Factors

namespace DenseMatrix

theorem factor?_eq_ok_iff {α : Type} [Scalar α] {a : DenseMatrix α} {tolerance : α} {f : Factors α a.rows a.cols} :
    a.factor? tolerance = .ok f ↔ a.entries.factor tolerance = .ok f := by
  rw [factor?]
  cases a.entries.factor tolerance <;> simp

theorem factor?_eq_ok {a : DenseMatrix Rat} {tolerance : Rat} {f : Factors Rat a.rows a.cols}
    (run : a.factor? tolerance = .ok f) : a.entries.factor tolerance = .ok f :=
  factor?_eq_ok_iff.1 run

theorem factor?_eq_error {a : DenseMatrix Rat} {tolerance : Rat} {fault : MatrixFault}
    (run : a.factor? tolerance = .error fault) :
    ∃ column, a.entries.factor tolerance = .error column ∧ fault = .noPivot .decomposition column := by
  rw [factor?] at run
  split at run
  · cases run
  · rename_i column run'
    exact ⟨column, run', (Except.error.inj run).symm⟩

/-- A matrix of any shape, with its rows rearranged, is the product of its triangular factors. Without a tolerance there
are none exactly if the columns that would hold pivots are dependent, and the first that depends on those before it is
named. -/
theorem factors_resolve (a : DenseMatrix Rat) (tolerance : Rat) (nonneg : 0 ≤ tolerance) :
    (∀ f, a.factor? tolerance = .ok f →
      f.permutation.toMatrix * a.entries.toMatrix = f.lower.toMatrix * f.upper.toMatrix ∧
      (∀ i, f.lower.entry i i = 1) ∧ (∀ i j, i < j → f.lower.entry i j = 0) ∧
      (∀ (i : Fin a.rows) (j : Fin a.cols), (j : Nat) < i → f.upper.entry i j = 0) ∧
      (∀ (i : Fin a.rows) (j : Fin a.cols), (i : Nat) = j → tolerance < |f.upper.entry i j|) ∧
      ∃ σ : Equiv.Perm (Fin a.rows), f.permutation.toMatrix = σ.permMatrix Rat ∧ σ.sign = (-1) ^ f.swaps ∧
        (f.swaps = 0 → f.permutation = .identity)) ∧
    (tolerance = 0 →
      ((∃ fault, a.factor? tolerance = .error fault) ↔
        ¬LinearIndepOn Rat a.entries.toMatrix.col {j | (j : Nat) < min a.rows a.cols}) ∧
      ∀ fault, a.factor? tolerance = .error fault → ∃ k < min a.rows a.cols, fault = .noPivot .decomposition k ∧
        IsLeast {k : Nat | ¬LinearIndepOn Rat a.entries.toMatrix.col {j | (j : Nat) ≤ k}} k) := by
  have spec := Factors.factor_spec nonneg a.entries
  refine ⟨?_, ?_⟩
  · intro f run
    rw [factor?_eq_ok run] at spec
    obtain ⟨σ, order, sign, fixed⟩ := spec.order
    refine ⟨spec.product, ?_, ?_, ?_, ?_, σ, Factors.toMatrix_permutation order, sign, ?_⟩
    · intro i
      rw [spec.lower i i (.inl le_rfl), if_pos rfl]
    · intro i j hij
      rw [spec.lower i j (.inl hij.le), if_neg hij.ne]
    · exact fun i j hj => spec.upper i j (by omega) hj
    · exact fun i j hij => spec.pivots i j (by omega) hij
    · intro unmoved
      apply Grid.toMatrix_injective
      rw [Factors.toMatrix_permutation order, fixed unmoved, permMatrix_one, Grid.toMatrix_identity]
  · intro exact
    subst exact
    refine ⟨⟨?_, ?_⟩, ?_⟩
    · intro failed independent
      obtain ⟨fault, failed⟩ := failed
      obtain ⟨column, failed, _⟩ := factor?_eq_error failed
      obtain ⟨inside, least⟩ := Factors.isLeast_dependent failed
      apply least.1
      apply independent.mono
      intro j hj
      exact Nat.lt_of_le_of_lt hj inside
    · intro dependent
      cases run : a.factor? 0 with
      | error fault => exact ⟨fault, rfl⟩
      | ok f =>
        rw [factor?_eq_ok run] at spec
        exact absurd (spec.independent le_rfl (Nat.min_le_left _ _)) dependent
    · intro fault failed
      obtain ⟨column, stuck, rfl⟩ := factor?_eq_error failed
      obtain ⟨inside, least⟩ := Factors.isLeast_dependent stuck
      exact ⟨column, inside, rfl, least⟩

/-- The second pivot of this matrix has to be brought up from the last row. -/
def lateExchange : Grid Rat 4 3 :=
  .ofLists 0 [[1, 2, 3], [2, 4, 1], [3, 6, 2], [1, 5, 7]]

theorem factors_of_lateExchange : (0 : Rat) ≤ 0 ∧ ∃ f, factor? 0 ⟨4, 3, lateExchange⟩ = .ok f ∧ f.swaps = 1 ∧
    f.order.toList = [0, 3, 2, 1] ∧ f.lower.toLists = [[1, 0, 0, 0], [1, 1, 0, 0], [3, 0, 1, 0], [2, 0, 5 / 7, 1]] ∧
    f.permutation.toMatrix * lateExchange.toMatrix = f.lower.toMatrix * f.upper.toMatrix ∧
    LinearIndepOn Rat lateExchange.toMatrix.col {j | (j : Nat) < 3} := by
  obtain ⟨resolved, exact⟩ := factors_resolve ⟨4, 3, lateExchange⟩ 0 le_rfl
  have found : (factor? 0 ⟨4, 3, lateExchange⟩).toOption.map
      (fun f => (f.swaps, f.order.toList, f.lower.toLists)) =
        some (1, [0, 3, 2, 1], [[1, 0, 0, 0], [1, 1, 0, 0], [3, 0, 1, 0], [2, 0, 5 / 7, 1]]) := by decide +kernel
  cases run : factor? 0 ⟨4, 3, lateExchange⟩ with
  | error fault =>
    rw [run] at found
    cases found
  | ok f =>
    rw [run] at found
    obtain ⟨swaps, found⟩ := Prod.mk.inj (Option.some.inj found)
    obtain ⟨order, lower⟩ := Prod.mk.inj found
    refine ⟨le_rfl, f, rfl, swaps, order, lower, (resolved f run).1, ?_⟩
    by_contra dependent
    obtain ⟨fault, failed⟩ := (exact rfl).1.2 dependent
    rw [run] at failed
    cases failed

end DenseMatrix

end Polyhedra
