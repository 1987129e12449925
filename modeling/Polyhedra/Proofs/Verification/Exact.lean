import Mathlib
import Polyhedra.Proofs.Dictionary.Certificate
import Polyhedra.Verification

/-!
# Verification without rounding

A dictionary gets its numbers from the inverse of the basic columns, a verification solves for the basic values and,
with the transposed columns, for the multipliers of the constraints. If neither rounds, both have the same basic values
and the same reduced costs, since a system with independent columns has one solution only. What is compared then is
equal, and the flags follow from it by the same tests.
-/

namespace Polyhedra

open Matrix

/-- A solver that finds the solution of every system with independent columns. -/
def LinearSolver.IsExact (solve : LinearSolver Rat) : Prop :=
  ∀ (k : Nat) (g : Grid Rat k k) (b : Vector Rat k), IsUnit g.toMatrix →
    ∃ x, solve k g b = some x ∧ g.toMatrix *ᵥ x.get = b.get

/-- Elimination in which nothing but zero is negligible. -/
def LinearSolver.elimination : LinearSolver Rat := fun _ g b =>
  (g.solve 0 (.ofColumn b)).toOption.map Grid.toColumn

theorem LinearSolver.isExact_elimination : elimination.IsExact := by
  intro k g b unit
  cases solved : g.solve 0 (.ofColumn b) with
  | error e => exact absurd unit (Grid.not_isUnit_of_solve_error solved)
  | ok x =>
    obtain ⟨E, left, same⟩ := Grid.solve_ok le_rfl solved
    refine ⟨x.toColumn, by rw [elimination, solved]; rfl, ?_⟩
    have column : x.toColumn.get = E *ᵥ b.get := by
      rw [Grid.get_toColumn, same, Grid.toMatrix_ofColumn, ← replicateCol_mulVec]
      rfl
    rw [column, mulVec_mulVec, mul_eq_one_comm.1 left, one_mulVec]

theorem greatestDistance_eq_zero {pairs : List (Rat × Rat)} (same : ∀ pair ∈ pairs, pair.1 = pair.2) :
    greatestDistance pairs = 0 := by
  rw [greatestDistance]
  induction pairs with
  | nil => rfl
  | cons pair pairs ih =>
    have still : (if Scalar.lt 0 (Scalar.abs (pair.1 - pair.2)) then Scalar.abs (pair.1 - pair.2) else 0) = 0 := by
      rw [same pair List.mem_cons_self, sub_self, Scalar.abs_eq, abs_zero, ite_self]
    simpa only [List.foldl_cons, still] using ih fun other mem => same other (List.mem_cons_of_mem _ mem)

theorem greatestDistance_of_same {k : Nat} {v w : Vector Rat k} (same : v.get = w.get) :
    greatestDistance ((List.finRange k).map fun i => (v.get i, w.get i)) = 0 := by
  apply greatestDistance_eq_zero
  intro pair mem
  obtain ⟨i, _, rfl⟩ := List.mem_map.1 mem
  exact congrFun same i

theorem all_le_iff {k : Nat} (f g : Fin k → Rat) :
    ((List.finRange k).all fun i => Scalar.le (f i) (g i)) = true ↔ ∀ i, f i ≤ g i := by
  rw [List.all_eq_true]
  simp only [List.mem_finRange, true_imp_iff, Scalar.le_iff]

namespace Verification

variable {m n : Nat}

theorem widen_id (p : Program Rat m n) : widen id p = p := by
  obtain ⟨constraints, bounds, objective⟩ := p
  have grid : constraints.map id = constraints := by
    ext i j
    rw [Grid.entry_map, id]
  rw [widen, grid, Vector.map_id, Vector.map_id]

section Recomputation

variable {p : Program Rat m n} {s : Split m n} {inverse : Grid Rat m m} {solve : LinearSolver Rat}

/-- An exact solver finds the values in the table, and multipliers from which its costs come. -/
theorem solveBasis?_of_inverse (exact : solve.IsExact) (inv : inverse.toMatrix * p.system.submatrix id s.basicAt = 1) :
    ∃ values multipliers, solveBasis? solve p s.partition.basic = some (values, multipliers) ∧
      values.get = (p.table s inverse).values.get ∧
      multipliers.get = (p.fullObjective ∘ s.basicAt) ᵥ* inverse.toMatrix := by
  have columns : (p.columns s.partition.basic m).toMatrix = p.system.submatrix id s.basicAt :=
    p.toMatrix_columns s.basicAt
  have transposed : (p.columns s.partition.basic m).transpose.toMatrix = (p.system.submatrix id s.basicAt)ᵀ := by
    rw [← columns]
    ext i j
    rw [Grid.toMatrix_apply, Grid.entry_transpose, transpose_apply, Grid.toMatrix_apply]
  have unit : IsUnit (p.system.submatrix id s.basicAt) := IsUnit.of_mul_eq_one_right _ inv
  obtain ⟨values, foundValues, solves⟩ := exact m (p.columns s.partition.basic m) p.bounds (columns ▸ unit)
  obtain ⟨multipliers, foundMultipliers, carries⟩ := exact m (p.columns s.partition.basic m).transpose
    (p.costs s.partition.basic m) (transposed ▸ (isUnit_transpose _).2 unit)
  refine ⟨values, multipliers, ?_, ?_, ?_⟩
  · rw [solveBasis?, foundValues, Option.bind_some, foundMultipliers, Option.map_some]
  · rw [p.table_values, ← solves, columns, mulVec_mulVec, inv, one_mulVec]
  · rw [transposed, mulVec_transpose, Split.partition, p.get_costs s.basicAt] at carries
    rw [← carries, vecMul_vecMul, mul_eq_one_comm.1 inv, vecMul_one]

theorem reducedCosts_of_multipliers {multipliers : Vector Rat m}
    (found : multipliers.get = (p.fullObjective ∘ s.basicAt) ᵥ* inverse.toMatrix) :
    (reducedCosts p s.partition.nonBasic multipliers n).get = (p.table s inverse).costs.get := by
  funext j
  rw [p.table_costs, ← found, reducedCosts, get_ofFn, Split.partition, p.get_costs, Scalar.sum_eq, ← List.ofFn_eq_map,
    List.sum_ofFn, Pi.sub_apply, vecMul, dotProduct]
  congr 1
  apply Finset.sum_congr rfl
  intro i _
  rw [Program.indexAt_indexList, p.augmented_eq_system, submatrix_apply, id]

end Recomputation

/-- A comparison of equal numbers confirms the flags that the tests give. -/
theorem compare_of_same {r : BasisReport Rat m n} {values : Vector Rat m} {costs : Vector Rat n}
    {tolerance residualTolerance : Rat} (nonneg : 0 ≤ residualTolerance) (sameValues : values.get = r.values.get)
    (sameCosts : costs.get = r.costs.get) (feasible : r.isFeasible = true ↔ ∀ i, -tolerance ≤ r.values.get i)
    (optimal : r.isFeasible = true → (r.isOptimal = true ↔ ∀ j, r.costs.get j ≤ tolerance)) :
    compare id tolerance residualTolerance r values costs =
      ⟨r.isFeasible, if r.isFeasible then some r.isOptimal else none, 0, 0, .confirmed⟩ := by
  have valueResidual : greatestDistance ((List.finRange m).map fun i => (values.get i, id (r.values.get i))) = 0 :=
    greatestDistance_of_same sameValues
  have costResidual : greatestDistance ((List.finRange n).map fun j => (costs.get j, id (r.costs.get j))) = 0 :=
    greatestDistance_of_same sameCosts
  have within : Scalar.le 0 residualTolerance = true := (Scalar.le_iff _ _).2 nonneg
  have feasible' : ((List.finRange m).all fun i => Scalar.le (-tolerance) (values.get i)) = r.isFeasible := by
    rw [Bool.eq_iff_iff, all_le_iff, feasible, sameValues]
  rw [compare, valueResidual, costResidual, feasible', within]
  cases h : r.isFeasible with
  | false => rfl
  | true =>
    have optimal' : ((List.finRange n).all fun j => Scalar.le (costs.get j) tolerance) = r.isOptimal := by
      rw [Bool.eq_iff_iff, all_le_iff, optimal h, sameCosts]
    rw [optimal']
    cases r.isOptimal <;> rfl

theorem verifyReport_table {p : Program Rat m n} {s : Split m n} {inverse : Grid Rat m m} {solve : LinearSolver Rat}
    {tolerance residualTolerance : Rat} (exact : solve.IsExact) (constrained : m ≠ 0) (nonneg : 0 ≤ residualTolerance)
    (inv : inverse.toMatrix * p.system.submatrix id s.basicAt = 1) {isFeasible isOptimal : Bool}
    (feasible : isFeasible = true ↔ ∀ i, -tolerance ≤ (p.table s inverse).values.get i)
    (optimal : isFeasible = true → (isOptimal = true ↔ ∀ j, (p.table s inverse).costs.get j ≤ tolerance)) :
    verifyReport id solve tolerance residualTolerance p ⟨s.partition.basic, s.partition.nonBasic,
        (p.table s inverse).values, (p.table s inverse).costs, isFeasible, isOptimal⟩ =
      .compared ⟨isFeasible, if isFeasible then some isOptimal else none, 0, 0, .confirmed⟩ := by
  obtain ⟨values, multipliers, solved, sameValues, sameMultipliers⟩ := solveBasis?_of_inverse exact inv
  simp only [verifyReport, if_neg constrained, widen_id, solved]
  rw [compare_of_same nonneg sameValues (reducedCosts_of_multipliers sameMultipliers) feasible optimal]

end Verification

/-- The problem of the least value of `-3x - y` over the region of the wedge. -/
def Problem.wedge : Problem Rat :=
  ⟨2, 2, Program.wedge.constraints, Program.wedge.bounds, #v[-3, -1], .min⟩

namespace Dictionary

open Verification

theorem areInside_indexList {k count : Nat} (at_ : Fin k ↪o Fin count) :
    areInside count (Split.indexList at_) = true := by
  rw [areInside, List.all_eq_true]
  intro i mem
  obtain ⟨j, rfl⟩ := Split.mem_indexList.1 mem
  exact decide_eq_true (Int.ofNat_lt.2 (at_ j).isLt)

/-- A dictionary whose indices all belong to the program is verified by its report. -/
theorem verifyForeign?_evaluated {α ω : Type} [Scalar α] [Scalar ω] {m n : Nat} {p : Program α m n}
    {basic nonBasic : List Int} {t : Tableau α m n} {verdict : Verdict α} (embed : α → ω) (solve : LinearSolver ω)
    (tolerance residualTolerance : ω) (constrained : m ≠ 0) (basicInside : areInside (n + m) basic = true)
    (othersInside : areInside (n + m) nonBasic = true) :
    verifyForeign? embed solve tolerance residualTolerance p ⟨m, n, basic, nonBasic, .evaluated t verdict⟩ =
      some (verifyReport embed solve tolerance residualTolerance p ⟨basic, nonBasic, t.values, t.costs,
        (⟨m, n, basic, nonBasic, .evaluated t verdict⟩ : Dictionary α).isFeasible,
        (⟨m, n, basic, nonBasic, .evaluated t verdict⟩ : Dictionary α).isOptimal⟩) := by
  have fits : ¬((decide (m < m) || !areInside (n + m) basic) = true) := by
    rw [basicInside, decide_eq_false (lt_irrefl m)]
    exact Bool.false_ne_true
  simp only [verifyForeign?, report?, tableau?, Option.map_some, if_neg constrained, if_neg fits, dif_pos, othersInside,
    if_true, BasisReport.resize, Vector.cast_rfl]
  cases verifyReport embed solve tolerance residualTolerance p _ <;> rfl

theorem verifyForeign?_build {m n : Nat} {p : Program Rat m n} {basic nonBasic : List Int} {solve : LinearSolver Rat}
    {tolerance pivotTolerance residualTolerance : Rat} (exact : solve.IsExact) (constrained : m ≠ 0)
    (valid : Partition.check basic nonBasic n m = .ok ()) (nonneg : 0 ≤ pivotTolerance)
    (nonnegResidual : 0 ≤ residualTolerance)
    (isBasis : (build p basic nonBasic tolerance pivotTolerance).isBasic = true) :
    verifyForeign? id solve tolerance residualTolerance p (build p basic nonBasic tolerance pivotTolerance) =
      some (.compared ⟨(build p basic nonBasic tolerance pivotTolerance).isFeasible,
        if (build p basic nonBasic tolerance pivotTolerance).isFeasible then
          some (build p basic nonBasic tolerance pivotTolerance).isOptimal else none, 0, 0, .confirmed⟩) := by
  obtain ⟨s, _, _, built⟩ := build_of_valid p tolerance pivotTolerance valid
  rw [built] at isBasis ⊢
  rcases evaluate_cases nonneg p s tolerance with missing | ⟨inverse, inv, found⟩
  · rw [missing] at isBasis
    cases isBasis
  · rw [found]
    have reads := Tableau.says_classify (p.table s inverse) tolerance s.partition.basic s.partition.nonBasic
    have feasible := isFeasible_evaluated_iff reads
    have verified := verifyReport_table exact constrained nonnegResidual inv feasible
      fun h => (isOptimal_evaluated_iff reads).trans (and_iff_right (feasible.1 h))
    exact (verifyForeign?_evaluated id solve tolerance residualTolerance constrained (areInside_indexList s.basicAt)
      (areInside_indexList s.nonBasicAt)).trans (congrArg some verified)

/-- If neither the dictionary nor its verification rounds, every basis of every problem is confirmed, whatever counts as
a negative value or an improving cost. -/
theorem verification_confirms (solve : LinearSolver Rat) (exact : solve.IsExact) (p : Problem Rat)
    (partition : Partition) (tolerance pivotTolerance residualTolerance : Rat)
    (valid : Partition.check partition.basic partition.nonBasic p.numVars p.numConstraints = .ok ())
    (constrained : 1 ≤ p.numConstraints) (nonneg : 0 ≤ pivotTolerance) (nonnegResidual : 0 ≤ residualTolerance)
    (isBasis : (ofPartition p partition tolerance pivotTolerance).isBasic = true) :
    ∃ check, verifyForeign? id solve tolerance residualTolerance p.program
        (ofPartition p partition tolerance pivotTolerance) = some check ∧
      check.isChecked = true ∧ check.basisOk = true ∧ check.agrees = true ∧ check.valueResidual = 0 ∧
      check.costResidual = 0 ∧
      check.feasible? = some (ofPartition p partition tolerance pivotTolerance).isFeasible ∧
      check.optimal? = if (ofPartition p partition tolerance pivotTolerance).isFeasible then
        some (ofPartition p partition tolerance pivotTolerance).isOptimal else none := by
  have verified := verifyForeign?_build exact (Nat.one_le_iff_ne_zero.1 constrained) valid nonneg nonnegResidual isBasis
  exact ⟨_, verified, rfl, rfl, rfl, rfl, rfl, rfl, rfl⟩

theorem verification_confirms_wedge : LinearSolver.elimination.IsExact ∧
    Partition.check [1, 0] [3, 2] (2 : Nat) (2 : Nat) = .ok () ∧ 1 ≤ Problem.wedge.numConstraints ∧
      (0 : Rat) ≤ 1 / 10 ∧ (0 : Rat) ≤ 0 ∧ (ofPartition .wedge ⟨[1, 0], [3, 2]⟩ (-1 / 10) (1 / 10)).isBasic = true ∧
      ∃ check, verifyForeign? id .elimination (-1 / 10) 0 Problem.wedge.program
          (ofPartition .wedge ⟨[1, 0], [3, 2]⟩ (-1 / 10) (1 / 10)) = some check ∧
        check.agrees = true ∧ check.feasible? = some true ∧ check.optimal? = some true := by
  have valid : Partition.check [1, 0] [3, 2] (2 : Nat) (2 : Nat) = .ok () := by decide
  have constrained : 1 ≤ Problem.wedge.numConstraints := by decide
  have nonneg : (0 : Rat) ≤ 1 / 10 := by decide +kernel
  have isBasis : (ofPartition .wedge ⟨[1, 0], [3, 2]⟩ (-1 / 10) (1 / 10)).isBasic = true := by decide +kernel
  have feasible : (ofPartition .wedge ⟨[1, 0], [3, 2]⟩ (-1 / 10) (1 / 10)).isFeasible = true := by decide +kernel
  have optimal : (ofPartition .wedge ⟨[1, 0], [3, 2]⟩ (-1 / 10) (1 / 10)).isOptimal = true := by decide +kernel
  obtain ⟨check, run, _, _, agrees, _, _, sameFeasible, sameOptimal⟩ := verification_confirms .elimination
    LinearSolver.isExact_elimination .wedge ⟨[1, 0], [3, 2]⟩ (-1 / 10) (1 / 10) 0 valid constrained nonneg le_rfl
    isBasis
  rw [feasible] at sameFeasible sameOptimal
  rw [optimal, if_pos rfl] at sameOptimal
  exact ⟨LinearSolver.isExact_elimination, valid, constrained, nonneg, le_rfl, isBasis, check, run, agrees,
    sameFeasible, sameOptimal⟩

end Dictionary

end Polyhedra
