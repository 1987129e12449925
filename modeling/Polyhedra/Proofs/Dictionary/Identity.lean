import Mathlib
import Polyhedra.Dictionary
import Polyhedra.Proofs.Elimination.Solution
import Polyhedra.Proofs.Program.Bases

/-!
# What a dictionary says about all solutions

Over the rational numbers the table of a basis is the system of equations solved for the basic variables: a vector
solves the equations exactly if its basic coordinates are the stated combinations of the non-basic ones, and then its
objective value is the stated combination as well. All tables of one split say the same, whatever the order in which
the partition was given. The rest of the development knows tables only through this description.
-/

namespace Polyhedra

open Matrix

variable {m n : Nat}

/-- A table gives the basic coordinates and the objective value of every solution from its non-basic coordinates. -/
structure Tableau.Describes (t : Tableau Rat m n) (p : Program Rat m n) (s : Split m n) : Prop where
  solutions : ∀ x : Fin (n + m) → Rat, p.system *ᵥ x = p.bounds.get ↔
    x ∘ s.basicAt = t.values.get + t.coefficients.toMatrix *ᵥ (x ∘ s.nonBasicAt)
  objective : ∀ x : Fin (n + m) → Rat, p.system *ᵥ x = p.bounds.get →
    p.fullObjective ⬝ᵥ x = t.zeta + t.costs.get ⬝ᵥ (x ∘ s.nonBasicAt)

namespace Grid

/-! ### Columns and rows as grids -/

theorem toMatrix_ofColumn (v : Vector Rat m) : (ofColumn v).toMatrix = replicateCol (Fin 1) v.get := by
  ext i j
  rw [toMatrix_apply, ofColumn, entry_build, replicateCol_apply]

theorem toMatrix_ofRow (v : Vector Rat n) : (ofRow v).toMatrix = replicateRow (Fin 1) v.get := by
  ext i j
  rw [toMatrix_apply, ofRow, entry_build, replicateRow_apply]

theorem get_toColumn (g : Grid Rat m 1) : g.toColumn.get = fun i => g.toMatrix i 0 := by
  funext i
  rw [toColumn, get_ofFn, toMatrix_apply]

theorem get_toRow (g : Grid Rat 1 n) : g.toRow.get = fun j => g.toMatrix 0 j := by
  funext j
  rw [toRow, get_ofFn, toMatrix_apply]

end Grid

namespace Program

/-! ### The columns of a split -/

section Entries

variable {α : Type} [Scalar α] (p : Program α m n)

theorem augmented_castAdd (i : Fin m) (j : Fin n) : p.augmented i (j.castAdd m) = p.constraints.entry i j := by
  rw [augmented, dif_pos (by simp)]
  rfl

theorem augmented_natAdd (i l : Fin m) : p.augmented i (l.natAdd n) = if i = l then 1 else 0 := by
  rw [augmented, dif_neg (by simp)]
  exact if_congr (by simp [Fin.ext_iff, eq_comm]) rfl rfl

theorem cost_castAdd (j : Fin n) : p.cost (j.castAdd m) = p.objective.get j := by
  rw [cost, dif_pos (by simp)]
  rfl

theorem cost_natAdd (l : Fin m) : p.cost (l.natAdd n) = 0 := by
  rw [cost, dif_neg (by simp)]

end Entries

variable (p : Program Rat m n)

theorem augmented_eq_system (i : Fin m) (k : Fin (n + m)) : p.augmented i k = p.system i k := by
  rw [system, of_apply]
  refine Fin.addCases (fun j => ?_) (fun l => ?_) k
  · rw [Fin.append_left, augmented_castAdd]
  · rw [Fin.append_right, augmented_natAdd, Pi.single_apply]
    exact if_congr eq_comm rfl rfl

theorem cost_eq_fullObjective (k : Fin (n + m)) : p.cost k = p.fullObjective k := by
  rw [fullObjective]
  refine Fin.addCases (fun j => ?_) (fun l => ?_) k
  · rw [Fin.append_left, cost_castAdd]
  · rw [Fin.append_right, cost_natAdd]
    rfl

theorem indexAt_indexList {k count : Nat} (at_ : Fin k ↪o Fin count) (i : Fin k) :
    indexAt (Split.indexList at_) i = at_ i := by
  rw [indexAt, Split.getD_indexList, Int.toNat_natCast]

theorem toMatrix_columns {k : Nat} (at_ : Fin k ↪o Fin (n + m)) :
    (p.columns (Split.indexList at_) k).toMatrix = p.system.submatrix id at_ := by
  ext i j
  rw [Grid.toMatrix_apply, columns, Grid.entry_build, indexAt_indexList, augmented_eq_system, submatrix_apply, id]

theorem get_costs {k : Nat} (at_ : Fin k ↪o Fin (n + m)) :
    (p.costs (Split.indexList at_) k).get = p.fullObjective ∘ at_ := by
  funext j
  rw [costs, get_ofFn, indexAt_indexList, cost_eq_fullObjective, Function.comp_apply]

theorem system_mulVec_places (s : Split m n) (x : Fin (n + m) → Rat) :
    p.system *ᵥ x = p.system.submatrix id s.basicAt *ᵥ (x ∘ s.basicAt) +
      p.system.submatrix id s.nonBasicAt *ᵥ (x ∘ s.nonBasicAt) := by
  funext i
  exact s.sum_places fun k => p.system i k * x k

theorem fullObjective_places (s : Split m n) (x : Fin (n + m) → Rat) :
    p.fullObjective ⬝ᵥ x = (p.fullObjective ∘ s.basicAt) ⬝ᵥ (x ∘ s.basicAt) +
      (p.fullObjective ∘ s.nonBasicAt) ⬝ᵥ (x ∘ s.nonBasicAt) :=
  s.sum_places fun k => p.fullObjective k * x k

/-! ### The table of an inverse -/

section Table

variable (s : Split m n) (inverse : Grid Rat m m)

abbrev table : Tableau Rat m n :=
  p.tableau s.partition.basic s.partition.nonBasic inverse

theorem table_values : (p.table s inverse).values.get = inverse.toMatrix *ᵥ p.bounds.get := by
  rw [table, tableau, Grid.get_toColumn, Grid.toMatrix_mul, Grid.toMatrix_ofColumn, ← replicateCol_mulVec]
  rfl

theorem table_coefficients : (p.table s inverse).coefficients.toMatrix =
    -(inverse.toMatrix * p.system.submatrix id s.nonBasicAt) := by
  rw [table, tableau, Grid.toMatrix_mul, Grid.toMatrix_scale, Split.partition, toMatrix_columns]
  rw [Matrix.mul_smul]
  exact neg_one_smul _ _

theorem table_zeta : (p.table s inverse).zeta = (p.fullObjective ∘ s.basicAt) ⬝ᵥ (inverse.toMatrix *ᵥ p.bounds.get) := by
  rw [table, tableau, Grid.single, ← Grid.toMatrix_apply, Grid.toMatrix_mul, Grid.toMatrix_mul, Grid.toMatrix_ofRow,
    Grid.toMatrix_ofColumn, ← replicateCol_mulVec, Split.partition, get_costs]
  rfl

theorem table_costs : (p.table s inverse).costs.get = p.fullObjective ∘ s.nonBasicAt -
    ((p.fullObjective ∘ s.basicAt) ᵥ* inverse.toMatrix) ᵥ* p.system.submatrix id s.nonBasicAt := by
  funext j
  rw [table, tableau, get_ofFn, Grid.get_toRow, Grid.toMatrix_mul, Grid.toMatrix_mul, Grid.toMatrix_ofRow,
    Split.partition, get_costs, get_costs, toMatrix_columns, ← replicateRow_vecMul, ← replicateRow_vecMul]
  rfl

variable {s inverse}

theorem table_describes (inv : inverse.toMatrix * p.system.submatrix id s.basicAt = 1) :
    (p.table s inverse).Describes p s := by
  have solutions (x : Fin (n + m) → Rat) : p.system *ᵥ x = p.bounds.get ↔
      x ∘ s.basicAt = inverse.toMatrix *ᵥ p.bounds.get -
        (inverse.toMatrix * p.system.submatrix id s.nonBasicAt) *ᵥ (x ∘ s.nonBasicAt) := by
    rw [system_mulVec_places, ← mulVec_mulVec, ← mulVec_sub]
    refine ⟨?_, ?_⟩
    · intro solves
      rw [← solves, add_sub_cancel_right, mulVec_mulVec, inv, one_mulVec]
    · intro basic
      rw [basic, mulVec_mulVec, mul_eq_one_comm.1 inv, one_mulVec, sub_add_cancel]
  refine ⟨?_, ?_⟩
  · intro x
    rw [solutions, table_values, table_coefficients, neg_mulVec, sub_eq_add_neg]
  · intro x solves
    rw [fullObjective_places p s, (solutions x).1 solves, table_zeta, table_costs, dotProduct_sub, sub_dotProduct,
      vecMul_vecMul, ← dotProduct_mulVec]
    ring

end Table

end Program

namespace Dictionary

/-! ### Dictionaries of splits -/

variable {p : Program Rat m n} {tolerance pivotTolerance : Rat}

/-- Valid lists of indices have the dictionary of a split. -/
theorem build_of_valid {basic nonBasic : List Int} (p : Program Rat m n) (tolerance pivotTolerance : Rat)
    (valid : Partition.check basic nonBasic n m = .ok ()) :
    ∃ s : Split m n, ascending basic = s.partition.basic ∧ ascending nonBasic = s.partition.nonBasic ∧
      build p basic nonBasic tolerance pivotTolerance =
        ⟨m, n, s.partition.basic, s.partition.nonBasic,
          evaluate p s.partition.basic s.partition.nonBasic tolerance pivotTolerance⟩ := by
  obtain ⟨s, sortedB, sortedN⟩ := Split.exists_of_check valid
  refine ⟨s, sortedB, sortedN, ?_⟩
  rw [build, valid, sortedB, sortedN]

/-- The evaluation of a split ends without a basis, or with the table of an inverse. -/
theorem evaluate_cases (nonneg : 0 ≤ pivotTolerance) (p : Program Rat m n) (s : Split m n) (tolerance : Rat) :
    evaluate p s.partition.basic s.partition.nonBasic tolerance pivotTolerance = .notBasic ∨
      ∃ inverse : Grid Rat m m, inverse.toMatrix * p.system.submatrix id s.basicAt = 1 ∧
        evaluate p s.partition.basic s.partition.nonBasic tolerance pivotTolerance =
          .evaluated (p.table s inverse)
            ((p.table s inverse).classify tolerance s.partition.basic s.partition.nonBasic) := by
  rw [evaluate]
  cases found : (p.columns s.partition.basic m).inverse pivotTolerance with
  | error e => exact .inl rfl
  | ok inverse =>
    have inv := Grid.inverse_ok nonneg found
    rw [Split.partition, Program.toMatrix_columns] at inv
    exact .inr ⟨inverse, inv, rfl⟩

theorem evaluate_of_isBasis {s : Split m n} (h : s.IsBasis p) (tolerance : Rat) :
    ∃ inverse : Grid Rat m m, inverse.toMatrix * p.system.submatrix id s.basicAt = 1 ∧
      evaluate p s.partition.basic s.partition.nonBasic tolerance 0 =
        .evaluated (p.table s inverse)
          ((p.table s inverse).classify tolerance s.partition.basic s.partition.nonBasic) := by
  rcases evaluate_cases le_rfl p s tolerance with missing | found
  · rw [Split.isBasis_iff_isUnit, ← Program.toMatrix_columns] at h
    obtain ⟨inverse, found⟩ := Grid.inverse_isOk_iff.2 h
    change (p.columns s.partition.basic m).inverse 0 = .ok inverse at found
    rw [evaluate, found] at missing
    cases missing
  · exact found

theorem build_partition (p : Program Rat m n) (s : Split m n) (tolerance pivotTolerance : Rat) :
    build p s.partition.basic s.partition.nonBasic tolerance pivotTolerance =
      ⟨m, n, s.partition.basic, s.partition.nonBasic,
        evaluate p s.partition.basic s.partition.nonBasic tolerance pivotTolerance⟩ := by
  have basic : ascending s.partition.basic = s.partition.basic := Split.ascending_indexList _
  have nonBasic : ascending s.partition.nonBasic = s.partition.nonBasic := Split.ascending_indexList _
  rw [build, s.check_partition, basic, nonBasic]

theorem isBasis_of_inverse {s : Split m n} {inverse : Grid Rat m m}
    (inv : inverse.toMatrix * p.system.submatrix id s.basicAt = 1) : s.IsBasis p :=
  (s.isBasis_iff_isUnit p).2 (IsUnit.of_mul_eq_one_right _ inv)

theorem evaluate_of_inverse {s : Split m n} {inverse : Grid Rat m m}
    (inv : inverse.toMatrix * p.system.submatrix id s.basicAt = 1) (tolerance : Rat) :
    evaluate p s.partition.basic s.partition.nonBasic tolerance 0 =
      .evaluated (p.table s inverse)
        ((p.table s inverse).classify tolerance s.partition.basic s.partition.nonBasic) := by
  obtain ⟨other, inv', found⟩ := evaluate_of_isBasis (isBasis_of_inverse inv) tolerance
  obtain rfl : other = inverse := Grid.toMatrix_injective ((inv_eq_left_inv inv').symm.trans (inv_eq_left_inv inv))
  exact found

abbrev ofSplit (p : Program Rat m n) (s : Split m n) : Dictionary Rat :=
  build p s.partition.basic s.partition.nonBasic 0 0

theorem isBasic_build_iff {s : Split m n} {tolerance : Rat} :
    (build p s.partition.basic s.partition.nonBasic tolerance 0).isBasic = true ↔ s.IsBasis p := by
  rw [build_partition]
  refine ⟨?_, ?_⟩
  · intro isBasis
    rcases evaluate_cases le_rfl p s tolerance with missing | ⟨inverse, inv, _⟩
    · rw [missing] at isBasis
      cases isBasis
    · exact isBasis_of_inverse inv
  · intro h
    obtain ⟨inverse, _, found⟩ := evaluate_of_isBasis h tolerance
    rw [found]
    rfl

/-- For every program, every valid partition in any order of its indices and every pivot tolerance that is not negative,
the dictionary of a basis states how the solutions of `[A | I] x = b` depend on their non-basic coordinates, exactly,
and what the objective is there; its rows and columns belong to the basic and non-basic indices in ascending order. With
nothing but zero negligible, the partitions recognised as bases are those with independent columns. -/
theorem build_describes_solutions (p : Program Rat m n) (basic nonBasic : List Int) (tolerance pivotTolerance : Rat)
    (valid : Partition.check basic nonBasic n m = .ok ()) (nonneg : 0 ≤ pivotTolerance) :
    ∃ s : Split m n,
      (∀ k : Fin (n + m), k ∈ s.basic ↔ ((k : Nat) : Int) ∈ basic) ∧
      (∀ k : Fin (n + m), k ∉ s.basic ↔ ((k : Nat) : Int) ∈ nonBasic) ∧
      ((build p basic nonBasic tolerance pivotTolerance).isBasic = true →
        ∃ (t : Tableau Rat m n) (verdict : Verdict Rat),
          build p basic nonBasic tolerance pivotTolerance =
            ⟨m, n, s.partition.basic, s.partition.nonBasic, .evaluated t verdict⟩ ∧
          (∀ x : Fin (n + m) → Rat, p.system *ᵥ x = p.bounds.get ↔
            ∀ i, x (s.basicAt i) = t.values.get i + ∑ j, t.coefficients.entry i j * x (s.nonBasicAt j)) ∧
          ∀ x : Fin (n + m) → Rat, p.system *ᵥ x = p.bounds.get →
            p.fullObjective ⬝ᵥ x = t.zeta + ∑ j, t.costs.get j * x (s.nonBasicAt j)) ∧
      (pivotTolerance = 0 → ((build p basic nonBasic tolerance pivotTolerance).isBasic = true ↔
        LinearIndependent Rat fun i => p.system.col (s.basicAt i))) := by
  obtain ⟨s, sortedB, sortedN, built⟩ := build_of_valid p tolerance pivotTolerance valid
  refine ⟨s, fun k => ?_, fun k => ?_, ?_, ?_⟩
  · rw [← Split.mem_partition_basic, ← sortedB, (perm_ascending basic).mem_iff]
  · rw [← Split.mem_partition_nonBasic, ← sortedN, (perm_ascending nonBasic).mem_iff]
  · intro isBasis
    rcases evaluate_cases nonneg p s tolerance with missing | ⟨inverse, inv, found⟩
    · rw [built, missing] at isBasis
      cases isBasis
    · rw [found] at built
      have describes := p.table_describes inv
      refine ⟨_, _, built, fun x => ?_, describes.objective⟩
      rw [describes.solutions]
      exact funext_iff
  · intro same
    subst same
    rw [built, ← build_partition]
    exact isBasic_build_iff

theorem build_wedge_describes_solutions :
    Partition.check [3, 0] [2, 1] (2 : Nat) (2 : Nat) = .ok () ∧ (0 : Rat) ≤ 0 ∧
      ∃ (s : Split 2 2) (t : Tableau Rat 2 2), s.partition = ⟨[0, 3], [1, 2]⟩ ∧
        t.values.toList = [2, -2] ∧ t.coefficients.toLists = [[-1 / 2, -1 / 2], [3, 2]] ∧
        ∀ x : Fin 4 → Rat, Program.wedge.system *ᵥ x = Program.wedge.bounds.get ↔
          ∀ i, x (s.basicAt i) = t.values.get i + ∑ j, t.coefficients.entry i j * x (s.nonBasicAt j) := by
  have valid : Partition.check [3, 0] [2, 1] (2 : Nat) (2 : Nat) = .ok () := by decide
  obtain ⟨s, _, _, describes, _⟩ := build_describes_solutions .wedge [3, 0] [2, 1] 0 0 valid le_rfl
  obtain ⟨t, verdict, built, solutions, _⟩ := describes (by decide +kernel)
  have lists : ((build .wedge [3, 0] [2, 1] 0 0).basic, (build .wedge [3, 0] [2, 1] 0 0).nonBasic) =
      (([0, 3], [1, 2]) : List Int × List Int) := by decide +kernel
  have table : (build .wedge [3, 0] [2, 1] 0 0).tableau?.map
      (fun t => (t.values.toList, t.coefficients.toLists)) =
        some (([2, -2], [[-1 / 2, -1 / 2], [3, 2]]) : List Rat × List (List Rat)) := by decide +kernel
  rw [built] at lists table
  obtain ⟨basic, nonBasic⟩ := Prod.mk.inj lists
  obtain ⟨values, coefficients⟩ := Prod.mk.inj (Option.some.inj table)
  exact ⟨valid, le_rfl, s, t, congrArg₂ Partition.mk basic nonBasic, values, coefficients, solutions⟩

end Dictionary

end Polyhedra
