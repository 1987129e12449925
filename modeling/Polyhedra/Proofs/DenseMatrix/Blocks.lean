import Mathlib
import Polyhedra.Partition.Combination
import Polyhedra.Proofs.DenseMatrix.Fitting
import Polyhedra.Proofs.ExactGrid
import Polyhedra.Proofs.Partition.Order

/-!
# Products of blocks

A product is a sum over the columns of the left matrix, which are the rows of the right one. Selected columns and rows
are those of one list of places, since both selections sort their indices alike; so two selections that share all
indices between them split the sum in two, in whatever order the indices are given. Matrices put side by side and
stacked split it at the seam. No size check fails on the way, and a block may be empty.
-/

namespace Polyhedra

variable {r u k p q : Nat}

namespace Grid

/-! ### Products as sums -/

theorem entry_mul_eq_sum (g : Grid Rat r u) (h : Grid Rat u k) (i : Fin r) (j : Fin k) :
    (g.mul h).entry i j = ((List.finRange u).map fun l => g.entry i l * h.entry l j).sum := by
  rw [entry_mul, Scalar.sum_eq]

/-- The product of chosen columns and rows is the sum over the chosen places. -/
theorem entry_columns_mul_rows (g : Grid Rat r u) (h : Grid Rat u k) (picked : List (Fin u)) (i : Fin r) (j : Fin k) :
    ((g.columns picked).mul (h.rows picked)).entry i j = (picked.map fun l => g.entry i l * h.entry l j).sum := by
  rw [entry_mul_eq_sum]
  simp only [entry_columns, entry_rows]
  conv_rhs => rw [← List.map_get_finRange picked, List.map_map]
  rfl

/-- Two choices that share all places between them split a product. -/
theorem mul_eq_add_of_perm (g : Grid Rat r u) (h : Grid Rat u k) {first second : List (Fin u)}
    (once : (first ++ second).Perm (List.finRange u)) : g.mul h =
      ((g.columns first).mul (h.rows first)).zipWith (· + ·) ((g.columns second).mul (h.rows second)) := by
  ext i j
  rw [entry_zipWith, entry_columns_mul_rows, entry_columns_mul_rows, entry_mul_eq_sum, ← List.sum_append,
    ← List.map_append]
  exact (once.map _).sum_eq.symm

/-- Grids side by side times grids stacked. -/
theorem beside_mul_above (a : Grid Rat r p) (c : Grid Rat r q) (x : Grid Rat p k) (y : Grid Rat q k) :
    (a.beside c).mul (x.above y) = (a.mul x).zipWith (· + ·) (c.mul y) := by
  apply toMatrix_injective
  rw [toMatrix_add, toMatrix_mul, toMatrix_mul, toMatrix_mul]
  ext i j
  rw [Matrix.mul_apply, Fin.sum_univ_add, Matrix.add_apply, Matrix.mul_apply, Matrix.mul_apply]
  simp

end Grid

/-! ### Places and their indices -/

theorem exists_places {limit : Nat} {l : List Int} (inside : ∀ i ∈ l, 0 ≤ i ∧ i < limit) :
    ∃ places : List (Fin limit), (places.map fun i : Fin limit => ((i : Nat) : Int)) = l := by
  induction l with
  | nil => exact ⟨[], rfl⟩
  | cons i rest ih =>
    obtain ⟨low, high⟩ := inside i List.mem_cons_self
    obtain ⟨places, rfl⟩ := ih fun i hi => inside i (List.mem_cons_of_mem _ hi)
    refine ⟨⟨i.toNat, by omega⟩ :: places, ?_⟩
    rw [List.map_cons, Int.toNat_of_nonneg low]

theorem indices_eq_map_finRange (count : Nat) :
    indices count = (List.finRange count).map fun i : Fin count => ((i : Nat) : Int) := by
  rw [indices, ← List.map_coe_finRange_eq_range, List.map_map]
  rfl

/-- Places are all there once if their indices are. -/
theorem perm_finRange_of_indices {count : Nat} {places : List (Fin count)}
    (all : (places.map fun i : Fin count => ((i : Nat) : Int)).Perm (indices count)) :
    places.Perm (List.finRange count) := by
  have natCast : Function.Injective fun i : Fin count => ((i : Nat) : Int) :=
    fun i j same => Fin.ext (Int.ofNat.inj same)
  rwa [indices_eq_map_finRange, List.map_perm_map_iff natCast] at all

namespace DenseMatrix

/-- The columns of one matrix and the rows of another that a list of indices selects are those at the same places. -/
theorem exists_selected {α : Type} {selected : List Int} (inside : ∀ i ∈ selected, 0 ≤ i ∧ i < u) :
    ∃ picked : List (Fin u), (picked.map fun i : Fin u => ((i : Nat) : Int)).Perm selected ∧
      (∀ {r : Nat} (g : Grid α r u), selectColumns? ⟨r, u, g⟩ selected = .ok ⟨r, picked.length, g.columns picked⟩) ∧
      ∀ {k : Nat} (h : Grid α u k), selectRows? ⟨u, k, h⟩ selected = .ok ⟨picked.length, k, h.rows picked⟩ := by
  have sorted (i : Int) (hi : i ∈ ascending selected) : 0 ≤ i ∧ i < u :=
    inside i ((perm_ascending selected).mem_iff.1 hi)
  obtain ⟨picked, places⟩ := exists_places sorted
  refine ⟨picked, places ▸ perm_ascending selected, fun g => ?_, fun h => ?_⟩
  · rw [selectColumns?, ← places, positions?_map]
  · rw [selectRows?, ← places, positions?_map]

/-- Indices split between two lists, in any order, split a product: it is the sum of the products that the columns and
rows selected by the one and by the other have. So do matrices put side by side and stacked. Nothing is refused. -/
theorem product_splits_into_blocks :
    (∀ {r u k : Nat} (m : Grid Rat r u) (x : Grid Rat u k) (basic nonBasic : List Int),
      (basic ++ nonBasic).Perm (indices u) → ∃ product : Grid Rat r k,
        product.toMatrix = m.toMatrix * x.toMatrix ∧
        multiply? ⟨r, u, m⟩ ⟨u, k, x⟩ = .ok ⟨r, k, product⟩ ∧
        (do
          let first ← (← selectColumns? ⟨r, u, m⟩ basic).multiply? (← selectRows? ⟨u, k, x⟩ basic)
          let second ← (← selectColumns? ⟨r, u, m⟩ nonBasic).multiply? (← selectRows? ⟨u, k, x⟩ nonBasic)
          first.add? second) = .ok ⟨r, k, product⟩) ∧
    ∀ {r p q k : Nat} (a : Grid Rat r p) (c : Grid Rat r q) (x : Grid Rat p k) (y : Grid Rat q k),
      ∃ product : Grid Rat r k,
        product.toMatrix = a.toMatrix * x.toMatrix + c.toMatrix * y.toMatrix ∧
        (do (← beside? ⟨r, p, a⟩ ⟨r, q, c⟩).multiply? (← above? ⟨p, k, x⟩ ⟨q, k, y⟩)) = .ok ⟨r, k, product⟩ ∧
        (do (← multiply? ⟨r, p, a⟩ ⟨p, k, x⟩).add? (← multiply? ⟨r, q, c⟩ ⟨q, k, y⟩)) = .ok ⟨r, k, product⟩ := by
  refine ⟨?_, ?_⟩
  · intro r u k m x basic nonBasic once
    have inside (i : Int) (hi : i ∈ basic ++ nonBasic) : 0 ≤ i ∧ i < u := mem_indices.1 (once.subset hi)
    obtain ⟨first, sameB, columnsB, rowsB⟩ :=
      exists_selected (α := Rat) fun i hi => inside i (List.mem_append_left _ hi)
    obtain ⟨second, sameN, columnsN, rowsN⟩ :=
      exists_selected (α := Rat) fun i hi => inside i (List.mem_append_right _ hi)
    have places : (first ++ second).Perm (List.finRange u) := by
      apply perm_finRange_of_indices
      rw [List.map_append]
      exact (sameB.append sameN).trans once
    refine ⟨m.mul x, Grid.toMatrix_mul m x, multiply?_mk m x, ?_⟩
    rw [columnsB, rowsB, columnsN, rowsN, m.mul_eq_add_of_perm x places]
    change (do
        let first ← multiply? ⟨r, first.length, m.columns first⟩ ⟨first.length, k, x.rows first⟩
        let second ← multiply? ⟨r, second.length, m.columns second⟩ ⟨second.length, k, x.rows second⟩
        first.add? second) = _
    rw [multiply?_mk, multiply?_mk]
    exact add?_mk _ _
  · intro r p q k a c x y
    refine ⟨(a.beside c).mul (x.above y), ?_, ?_, ?_⟩
    · rw [Grid.beside_mul_above, Grid.toMatrix_add, Grid.toMatrix_mul, Grid.toMatrix_mul]
    · rw [beside?_mk, above?_mk]
      exact multiply?_mk _ _
    · rw [multiply?_mk, multiply?_mk, Grid.beside_mul_above]
      exact add?_mk _ _

theorem product_of_places_splits : ([2, 0] ++ [1] : List Int).Perm (indices 3) ∧
    ∃ product : Grid Rat 2 1, product.toLists = [[321], [654]] ∧
      (do
        let m : DenseMatrix Rat := ⟨2, 3, .ofLists 0 [[1, 2, 3], [4, 5, 6]]⟩
        let x : DenseMatrix Rat := ⟨3, 1, .ofLists 0 [[1], [10], [100]]⟩
        let first ← (← m.selectColumns? [2, 0]).multiply? (← x.selectRows? [2, 0])
        let second ← (← m.selectColumns? [1]).multiply? (← x.selectRows? [1])
        first.add? second) = .ok ⟨2, 1, product⟩ := by
  have once : ([2, 0] ++ [1] : List Int).Perm (indices 3) := by decide
  obtain ⟨product, _, whole, split⟩ := product_splits_into_blocks.1 (.ofLists 0 [[1, 2, 3], [4, 5, 6]] : Grid Rat 2 3)
    (.ofLists 0 [[1], [10], [100]] : Grid Rat 3 1) [2, 0] [1] once
  have entries : (multiply? ⟨2, 3, .ofLists 0 [[1, 2, 3], [4, 5, 6]]⟩
      ⟨3, 1, .ofLists (0 : Rat) [[1], [10], [100]]⟩).toOption.map toLists = some [[321], [654]] := by decide +kernel
  rw [whole] at entries
  exact ⟨once, product, Option.some.inj entries, split⟩

end DenseMatrix

end Polyhedra
