import Mathlib
import Polyhedra.DenseMatrix.Elimination
import Polyhedra.Proofs.Partition.Split

/-!
# Operations on fitting sizes

The operations on matrices check sizes and indices that are data. On matrices which are given with their sizes the checks
fall away, and what is left is the operation on grids. Selected columns and rows are those that a split names.
-/

namespace Polyhedra

namespace DenseMatrix

variable {α : Type} {r r' c c' k : Nat}

/-- Matrices are the same if their sizes are and their entries at the same places. -/
theorem mk_eq_mk {g : Grid α r c} {h : Grid α r' c'} (rows : r = r') (cols : c = c')
    (same : ∀ i j, g.entry i j = h.entry (i.cast rows) (j.cast cols)) :
    (⟨r, c, g⟩ : DenseMatrix α) = ⟨r', c', h⟩ := by
  subst rows cols
  congr 1
  exact Grid.ext same

theorem position?_natCast {limit : Nat} (i : Fin limit) : IndexValue.position? limit (.whole (i : Nat)) = .ok (some i) := by
  have inside : (0 : Int) ≤ (i : Nat) ∧ ((i : Nat) : Int).toNat < limit := ⟨Int.natCast_nonneg _, by simp⟩
  rw [IndexValue.position?, IndexValue.wholePosition?, dif_pos inside]
  simp

theorem get?_mk (g : Grid α r c) (i : Fin r) (j : Fin c) :
    get? ⟨r, c, g⟩ (.pair (.whole (i : Nat)) (.whole (j : Nat))) = .ok (g.entry i j) := by
  rw [get?, place?]
  simp only [position?_natCast]
  rfl

theorem beside?_mk (g : Grid α r c) (h : Grid α r k) : beside? ⟨r, c, g⟩ ⟨r, k, h⟩ = .ok ⟨r, c + k, g.beside h⟩ := by
  rw [beside?, dif_pos rfl, Grid.resizeRows, Grid.resize_self]

theorem above?_mk (g : Grid α r c) (h : Grid α k c) : above? ⟨r, c, g⟩ ⟨k, c, h⟩ = .ok ⟨r + k, c, g.above h⟩ := by
  rw [above?, dif_pos rfl, Grid.resizeCols, Grid.resize_self]

theorem combine?_mk (how : BinaryOperation) (f : α → α → α) (g h : Grid α r c) :
    combine? how f ⟨r, c, g⟩ ⟨r, c, h⟩ = .ok ⟨r, c, g.zipWith f h⟩ := by
  rw [combine?, dif_pos ⟨rfl, rfl⟩, Grid.resize_self]

/-! ### Selections -/

theorem positions?_map {limit : Nat} (places : List (Fin limit)) :
    positions? limit (places.map fun i : Fin limit => ((i : Nat) : Int)) = .ok places := by
  induction places with
  | nil => rfl
  | cons i places ih =>
    rw [List.map_cons, positions?, dif_pos ⟨Int.natCast_nonneg _, by simp⟩, ih]
    simp [Except.map]

theorem positions?_ofFn {limit : Nat} (place : Fin k → Fin limit) :
    positions? limit (List.ofFn fun i => ((place i : Nat) : Int)) = .ok (List.ofFn place) := by
  rw [← positions?_map, List.map_ofFn]
  rfl

theorem selectColumns?_mk (g : Grid α r c) (at_ : Fin k ↪o Fin c) :
    selectColumns? ⟨r, c, g⟩ (Split.indexList at_) = .ok ⟨r, k, .build fun i j => g.entry i (at_ j)⟩ := by
  rw [selectColumns?, Split.ascending_indexList, Split.indexList, positions?_ofFn]
  refine congrArg Except.ok (mk_eq_mk rfl List.length_ofFn fun i j => ?_)
  simp
  rfl

theorem selectRows?_mk (g : Grid α r c) (at_ : Fin k ↪o Fin r) :
    selectRows? ⟨r, c, g⟩ (Split.indexList at_) = .ok ⟨k, c, .build fun i j => g.entry (at_ i) j⟩ := by
  rw [selectRows?, Split.ascending_indexList, Split.indexList, positions?_ofFn]
  refine congrArg Except.ok (mk_eq_mk List.length_ofFn rfl fun i j => ?_)
  simp
  rfl

/-! ### Answers of a reduction -/

section Reduction

variable {reduction : Reduction} {answer : Except Nat (Grid α r c)}

theorem ofReduction_eq_ok_iff {t : DenseMatrix α} :
    ofReduction reduction answer = .ok t ↔ ∃ u, answer = .ok u ∧ t = ⟨r, c, u⟩ := by
  cases answer with
  | ok u => simp [ofReduction, eq_comm]
  | error e => simp [ofReduction]

theorem ofReduction_eq_error_iff {fault : MatrixFault} :
    ofReduction reduction answer = .error fault ↔ ∃ e, answer = .error e ∧ fault = .noPivot reduction e := by
  cases answer with
  | ok u => simp [ofReduction]
  | error e => simp [ofReduction, eq_comm]

end Reduction

section Arithmetic

variable [Scalar α]

theorem add?_mk (g h : Grid α r c) : add? ⟨r, c, g⟩ ⟨r, c, h⟩ = .ok ⟨r, c, g.zipWith (· + ·) h⟩ :=
  combine?_mk .sum _ g h

theorem subtract?_mk (g h : Grid α r c) : subtract? ⟨r, c, g⟩ ⟨r, c, h⟩ = .ok ⟨r, c, g.zipWith (· - ·) h⟩ :=
  combine?_mk .difference _ g h

theorem multiply?_mk (g : Grid α r k) (h : Grid α k c) : multiply? ⟨r, k, g⟩ ⟨k, c, h⟩ = .ok ⟨r, c, g.mul h⟩ := by
  rw [multiply?, dif_pos rfl, Grid.resizeRows, Grid.resize_self]

theorem solve?_square (g : Grid α r r) (rightSide : Grid α r k) (tolerance : α) :
    solve? tolerance ⟨r, r, g⟩ ⟨r, k, rightSide⟩ = ofReduction .solving (g.solve tolerance rightSide) := by
  rw [solve?, dif_pos rfl, dif_pos rfl, Grid.resizeRows, Grid.resizeRows, Grid.resize_self, Grid.resize_self]

theorem inverse?_square (g : Grid α r r) (tolerance : α) : inverse? tolerance ⟨r, r, g⟩ =
    match g.inverse tolerance with
    | .ok inverse => .ok ⟨r, r, inverse⟩
    | .error _ => .error .singular := by
  rw [inverse?, isSquare, if_pos (decide_eq_true rfl), identity, solve?_square, Grid.inverse]
  cases g.solve tolerance Grid.identity <;> rfl

theorem determinant?_square (g : Grid α r r) (tolerance : α) :
    determinant? tolerance ⟨r, r, g⟩ = .ok (g.determinant tolerance) := by
  rw [determinant?, dif_pos rfl, Grid.resizeRows, Grid.resize_self]

end Arithmetic

end DenseMatrix

end Polyhedra
