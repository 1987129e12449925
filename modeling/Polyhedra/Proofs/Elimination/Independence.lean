import Mathlib

/-!
# Independent columns in echelon form

Combining rows by an invertible matrix keeps every relation between columns, so independence can be read off where
elimination has got to. Columns with nonzero entries on the diagonal and zeros beneath it are independent. A column that
is zero from the diagonal down depends on such columns, since there are fewer rows left than columns.
-/

namespace Polyhedra

open Matrix

variable {r c : Nat}

theorem linearIndepOn_col_mul {E : Matrix (Fin r) (Fin r) Rat} (unit : IsUnit E) (M : Matrix (Fin r) (Fin c) Rat)
    (S : Set (Fin c)) : LinearIndepOn Rat (E * M).col S ↔ LinearIndepOn Rat M.col S := by
  have columns : (E * M).col = E.mulVecLin ∘ M.col := rfl
  rw [columns]
  exact E.mulVecLin.linearIndepOn_iff_of_injOn (mulVec_injective_of_isUnit unit).injOn

/-- The columns before `k` are independent if they are upper triangular without a zero on the diagonal. -/
theorem linearIndepOn_col_of_upper {M : Matrix (Fin r) (Fin c) Rat} {k : Nat} (rows : k ≤ r)
    (below : ∀ (i : Fin r) (j : Fin c), (j : Nat) < k → (j : Nat) < i → M i j = 0)
    (diagonal : ∀ (i : Fin r) (j : Fin c), (j : Nat) < k → (i : Nat) = j → M i j ≠ 0) :
    LinearIndepOn Rat M.col {j | (j : Nat) < k} := by
  induction k with
  | zero =>
    have empty : {j : Fin c | (j : Nat) < 0} = ∅ := Set.eq_empty_of_forall_notMem fun j hj => Nat.not_lt_zero _ hj
    rw [empty]
    exact linearIndepOn_empty Rat _
  | succ k ih =>
    have before := ih (by omega) (fun i j hj => below i j (by omega)) fun i j hj => diagonal i j (by omega)
    by_cases inside : k < c
    · have next : {j : Fin c | (j : Nat) < k + 1} = insert ⟨k, inside⟩ {j : Fin c | (j : Nat) < k} := by
        ext j
        simp only [Set.mem_ofPred_eq, Set.mem_insert_iff, Fin.ext_iff]
        omega
      rw [next]
      apply before.insert
      -- Combinations of the columns before are zero in the row of the new pivot.
      have zero : Submodule.span Rat (M.col '' {j | (j : Nat) < k}) ≤
          LinearMap.ker (LinearMap.proj (R := Rat) (φ := fun _ : Fin r => Rat) ⟨k, rows⟩) := by
        rw [Submodule.span_le]
        intro v hv
        obtain ⟨j, hj, rfl⟩ := hv
        exact below ⟨k, rows⟩ j (Nat.lt_succ_of_lt hj) hj
      intro combination
      exact diagonal ⟨k, rows⟩ ⟨k, inside⟩ (Nat.lt_succ_self k) rfl (zero combination)
    · have same : {j : Fin c | (j : Nat) < k + 1} = {j : Fin c | (j : Nat) < k} := by
        ext j
        simp only [Set.mem_ofPred_eq]
        omega
      rw [same]
      exact before

/-- The columns up to `p` are dependent if those before `p` are upper triangular and `p` is zero from the diagonal
down. -/
theorem not_linearIndepOn_col_of_stuck {M : Matrix (Fin r) (Fin c) Rat} {p : Fin c} (rows : (p : Nat) ≤ r)
    (below : ∀ (i : Fin r) (j : Fin c), (j : Nat) < p → (j : Nat) < i → M i j = 0)
    (vanishes : ∀ i : Fin r, (p : Nat) ≤ i → M i p = 0) : ¬LinearIndepOn Rat M.col {j | (j : Nat) ≤ p} := by
  have zero (i : Fin r) (j : Fin c) (hj : (j : Nat) ≤ p) (hi : (p : Nat) ≤ i) : M i j = 0 := by
    rcases hj.eq_or_lt with hj | hj
    · obtain rfl : j = p := Fin.ext hj
      exact vanishes i hi
    · exact below i j hj (hj.trans_le hi)
  intro independent
  have inside (j : Fin (p + 1)) : j.castLE p.isLt ∈ {j : Fin c | (j : Nat) ≤ p} := Nat.le_of_lt_succ j.isLt
  have first : LinearIndependent Rat fun j : Fin (p + 1) => M.col (j.castLE p.isLt) := by
    apply LinearIndependent.comp independent fun j => ⟨j.castLE p.isLt, inside j⟩
    intro i j same
    exact Fin.castLE_injective p.isLt (congrArg Subtype.val same)
  have padded : (fun j : Fin (p + 1) => M.col (j.castLE p.isLt)) =
      Function.ExtendByZero.linearMap Rat (Fin.castLE rows) ∘ fun j i => M (i.castLE rows) (j.castLE p.isLt) := by
    funext j i
    rw [Function.comp_apply, Function.ExtendByZero.linearMap_apply]
    by_cases hi : (i : Nat) < p
    · have entry := (Fin.castLE_injective rows).extend_apply (fun i => M (i.castLE rows) (j.castLE p.isLt)) 0 ⟨i, hi⟩
      exact entry.symm
    · rw [Function.extend_apply', col_apply]
      · exact zero i _ (inside j) (not_lt.1 hi)
      · intro h
        obtain ⟨l, rfl⟩ := h
        exact hi l.isLt
  rw [padded] at first
  have few := (LinearIndependent.of_comp _ first).fintype_card_le_finrank
  rw [Module.finrank_fin_fun, Fintype.card_fin] at few
  exact Nat.not_succ_le_self _ few

/-- So independence ends at `p`, if nothing on the diagonal before it is zero. -/
theorem isLeast_dependent_of_stuck {M : Matrix (Fin r) (Fin c) Rat} {p : Fin c} (rows : (p : Nat) ≤ r)
    (below : ∀ (i : Fin r) (j : Fin c), (j : Nat) < p → (j : Nat) < i → M i j = 0)
    (diagonal : ∀ (i : Fin r) (j : Fin c), (j : Nat) < p → (i : Nat) = j → M i j ≠ 0)
    (vanishes : ∀ i : Fin r, (p : Nat) ≤ i → M i p = 0) :
    IsLeast {k : Nat | ¬LinearIndepOn Rat M.col {j | (j : Nat) ≤ k}} p := by
  refine ⟨not_linearIndepOn_col_of_stuck rows below vanishes, fun k dependent => not_lt.1 fun early => dependent ?_⟩
  apply (linearIndepOn_col_of_upper rows below diagonal).mono
  intro j hj
  exact Nat.lt_of_le_of_lt hj early

/-- The first column where independence ends is the first one that the columns before it combine to. -/
theorem isLeast_col_mem_span {M : Matrix (Fin r) (Fin c) Rat} {e : Nat} (inside : e < c)
    (least : IsLeast {k : Nat | ¬LinearIndepOn Rat M.col {j | (j : Nat) ≤ k}} e) :
    IsLeast {k : Fin c | M.col k ∈ Submodule.span Rat (M.col '' {j | j < k})} ⟨e, inside⟩ := by
  have upTo (k : Fin c) : LinearIndepOn Rat M.col {j | (j : Nat) ≤ k} ↔
      LinearIndepOn Rat M.col {j | j < k} ∧ M.col k ∉ Submodule.span Rat (M.col '' {j | j < k}) := by
    have itself : k ∉ {j | j < k} := lt_irrefl k
    have last : {j : Fin c | (j : Nat) ≤ k} = insert k {j | j < k} := by
      ext j
      simp only [Set.mem_ofPred_eq, Set.mem_insert_iff, Fin.ext_iff, Fin.lt_def]
      omega
    rw [last, linearIndepOn_insert itself]
  have before : LinearIndepOn Rat M.col {j | j < (⟨e, inside⟩ : Fin c)} := by
    by_contra dependent
    cases e with
    | zero =>
      apply dependent
      exact (linearIndepOn_empty Rat M.col).mono fun j hj => absurd hj (Nat.not_lt_zero _)
    | succ e =>
      have early := least.2 fun independent : LinearIndepOn Rat M.col {j | (j : Nat) ≤ e} =>
        dependent (independent.mono fun j hj => Nat.le_of_lt_succ hj)
      omega
  refine ⟨?_, ?_⟩
  · by_contra outside
    exact least.1 ((upTo ⟨e, inside⟩).2 ⟨before, outside⟩)
  · intro k combination
    exact least.2 fun independent => ((upTo k).1 independent).2 combination

end Polyhedra
