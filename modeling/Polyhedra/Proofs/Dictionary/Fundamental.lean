import Mathlib
import Polyhedra.Proofs.Dictionary.Certificate
import Polyhedra.Proofs.Program.Perturbation
import Polyhedra.Proofs.Program.Vertices

/-!
# A conclusive basis

If the region has a point, then some feasible basis decides the program: no cost in its table is positive, or some
improving column is a ray. With perturbed bounds no basic variable is zero, so a vertex with the greatest value among
all vertices has such a basis, since otherwise an exchange along an improving column would lead to a greater value. Costs
and coefficients do not depend on the bounds, and a basis that is feasible after the perturbation was so before.
-/

namespace Polyhedra

open Matrix

variable {m n : Nat} {p : Program Rat m n} {s : Split m n} {t : Tableau Rat m n}

namespace Tableau

/-- The table of a feasible basis that bounds the objective or shows that it has no bound. -/
def IsConclusive (t : Tableau Rat m n) : Prop :=
  (∀ i, 0 ≤ t.values.get i) ∧
    ((∀ j, t.costs.get j ≤ 0) ∨ ∃ j, 0 < t.costs.get j ∧ ∀ i, 0 ≤ t.coefficients.entry i j)

/-- How the solution changes with a non-basic coordinate. -/
def direction (t : Tableau Rat m n) (s : Split m n) (j : Fin n) : Fin (n + m) → Rat :=
  s.join (fun i => t.coefficients.entry i j) (Pi.single j 1)

theorem solution_single (t : Tableau Rat m n) (s : Split m n) (j : Fin n) (step : Rat) :
    t.solution s (Pi.single j step) = t.solution s 0 + step • t.direction s j := by
  refine s.funext_places (fun i => ?_) fun l => ?_
  · rw [Pi.add_apply, Pi.smul_apply, solution, solution, direction, s.join_basicAt, s.join_basicAt, s.join_basicAt,
      mulVec_zero, add_zero, mulVec_single]
    exact congrArg (t.values.get i + ·) (mul_comm _ _)
  · rw [Pi.add_apply, Pi.smul_apply, solution, solution, direction, s.join_nonBasicAt, s.join_nonBasicAt,
      s.join_nonBasicAt, Pi.zero_apply, zero_add, ← Pi.smul_apply, ← Pi.single_smul, smul_eq_mul, mul_one]

namespace Describes

theorem basic_of_kernel (h : t.Describes p s) {w : Fin (n + m) → Rat} (maps : p.system *ᵥ w = 0) :
    w ∘ s.basicAt = t.coefficients.toMatrix *ᵥ (w ∘ s.nonBasicAt) := by
  have start := h.system_mulVec_solution 0
  have moved : p.system *ᵥ (t.solution s 0 + w) = p.bounds.get := by
    rw [mulVec_add, start, maps, add_zero]
  have before := (h.solutions _).1 start
  have after := (h.solutions _).1 moved
  rw [Pi.add_comp, Pi.add_comp, mulVec_add, before, ← add_assoc] at after
  exact add_left_cancel after

/-- The columns that are left when a basic and a non-basic variable change places are independent. -/
theorem eq_zero_of_exchange (h : t.Describes p s) {i : Fin m} {j : Fin n} (pivot : t.coefficients.entry i j ≠ 0)
    {w : Fin (n + m) → Rat} (maps : p.system *ᵥ w = 0) (leaves : w (s.basicAt i) = 0)
    (others : ∀ l, l ≠ j → w (s.nonBasicAt l) = 0) : w = 0 := by
  have single : w ∘ s.nonBasicAt = Pi.single j (w (s.nonBasicAt j)) := by
    funext l
    by_cases hl : l = j
    · rw [hl, Pi.single_eq_same, Function.comp_apply]
    · rw [Pi.single_eq_of_ne hl]
      exact others l hl
  have basic := h.basic_of_kernel maps
  rw [single] at basic
  have enters : w (s.nonBasicAt j) = 0 := by
    have row := congrFun basic i
    rw [Function.comp_apply, leaves, mulVec_single] at row
    exact (mul_eq_zero.1 row.symm).resolve_left pivot
  rw [enters, Pi.single_zero] at single
  rw [enters, Pi.single_zero, mulVec_zero] at basic
  exact s.funext_places (congrFun basic) (congrFun single)

/-- If no basic variable is zero, then a coordinate along which some basic variable falls can grow until the first of
these is zero. -/
theorem exists_leaving (h : t.Describes p s) (values : ∀ i, 0 < t.values.get i) {j : Fin n}
    (falls : ∃ i, t.coefficients.entry i j < 0) :
    ∃ (step : Rat) (i : Fin m), 0 < step ∧ 0 ≤ t.solution s (Pi.single j step) ∧ t.coefficients.entry i j < 0 ∧
      t.solution s (Pi.single j step) (s.basicAt i) = 0 := by
  obtain ⟨fallen, hfallen⟩ := falls
  have nonneg : 0 ≤ t.solution s 0 := by
    have mem := (p.mem_region_iff _).1 (h.basicSolution_mem_region_iff.2 fun i => (values i).le)
    rwa [h.withSlacks_solution] at mem
  obtain ⟨step, step_nonneg, stays, k, hk, zero⟩ := Program.exists_ratio (w := t.direction s j) nonneg
    ⟨s.basicAt fallen, (s.join_basicAt _ _ fallen).trans_lt hfallen⟩
  have basic : ∃ i, s.basicAt i = k := by
    apply (s.basicAt_or_nonBasicAt k).resolve_right
    intro other
    obtain ⟨l, rfl⟩ := other
    rw [direction, s.join_nonBasicAt] at hk
    have nonneg : (0 : Fin n → Rat) ≤ Pi.single j 1 := Pi.single_nonneg.2 zero_le_one
    exact absurd (nonneg l) (not_le.2 hk)
  obtain ⟨i, rfl⟩ := basic
  have step_ne : 0 ≠ step := by
    intro still
    rw [← still, zero_mul, add_zero, solution, s.join_basicAt, mulVec_zero, add_zero] at zero
    exact (values i).ne' zero
  rw [direction, s.join_basicAt] at hk
  refine ⟨step, i, lt_of_le_of_ne step_nonneg step_ne, ?_, hk, ?_⟩
  · rw [t.solution_single]
    exact stays
  · rw [t.solution_single]
    exact zero

/-- If no basic variable is zero, an improving column along which some basic variable falls leads to a vertex with a
greater value. -/
theorem exists_isVertex_gt (h : t.Describes p s) (values : ∀ i, 0 < t.values.get i) {j : Fin n}
    (improves : 0 < t.costs.get j) (falls : ∃ i, t.coefficients.entry i j < 0) :
    ∃ x, p.IsVertex x ∧ t.zeta < p.value x := by
  obtain ⟨step, i, step_pos, stays, pivot, leaves⟩ := h.exists_leaving values falls
  refine ⟨Program.structural (t.solution s (Pi.single j step)), ⟨?_, ?_⟩, ?_⟩
  · exact p.structural_mem_region (h.system_mulVec_solution _) stays
  · rw [h.withSlacks_solution, Program.linearIndepOn_iff]
    intro w maps outside
    apply h.eq_zero_of_exchange pivot.ne maps (outside _ (Function.notMem_support.2 leaves))
    intro l hl
    apply outside
    rw [Function.notMem_support, solution, s.join_nonBasicAt, Pi.single_eq_of_ne hl]
  · rw [h.value_solution, dotProduct_single]
    exact lt_add_of_pos_right _ (mul_pos improves step_pos)

end Describes

end Tableau

namespace Program

/-- The table at a vertex with the greatest value is conclusive, if no basic variable is zero at any vertex. -/
theorem isConclusive_of_greatest {inverse : Grid Rat m m} {x : Fin n → Rat}
    (inv : inverse.toMatrix * p.system.submatrix id s.basicAt = 1) (vertex : p.IsVertex x)
    (zero : ∀ j, p.withSlacks x (s.nonBasicAt j) = 0) (nonzero : ∀ i, (p.table s inverse).values.get i ≠ 0)
    (greatest : ∀ y, p.IsVertex y → p.value y ≤ p.value x) : (p.table s inverse).IsConclusive := by
  have h := p.table_describes inv
  have basicSolution : p.withSlacks x = (p.table s inverse).solution s 0 := by
    rw [h.eq_solution (p.system_mulVec_withSlacks x)]
    exact congrArg _ (funext zero)
  have point : x = structural ((p.table s inverse).solution s 0) := by
    rw [← basicSolution, structural_withSlacks]
  have values (i : Fin m) : 0 < (p.table s inverse).values.get i := by
    have nonneg := h.basicSolution_mem_region_iff.1 (point ▸ vertex.mem_region) i
    exact lt_of_le_of_ne nonneg (nonzero i).symm
  refine ⟨fun i => (values i).le, or_iff_not_imp_left.2 fun improving => ?_⟩
  push Not at improving
  obtain ⟨j, improves⟩ := improving
  refine ⟨j, improves, fun i => not_lt.1 fun falls => ?_⟩
  obtain ⟨y, vertexY, greater⟩ := h.exists_isVertex_gt values improves ⟨i, falls⟩
  rw [← h.value_basicSolution, ← point] at greater
  exact absurd (greatest y vertexY) (not_le.2 greater)

theorem exists_isConclusive (nonempty : p.region.Nonempty) :
    ∃ (s : Split m n) (inverse : Grid Rat m m), inverse.toMatrix * p.system.submatrix id s.basicAt = 1 ∧
      (p.table s inverse).IsConclusive := by
  obtain ⟨ε, positive, generic⟩ := p.exists_isGeneric
  obtain ⟨x, vertex, greatest⟩ := Set.exists_max_image _ (p.perturbed ε).value (p.perturbed ε).finite_setOf_isVertex
    (exists_isVertex (nonempty.mono (region_subset_perturbed positive.le)))
  obtain ⟨_, s, isBasis, zero⟩ := isVertex_iff_exists_isBasis.1 vertex
  -- The equations have the same matrix before and after the perturbation.
  have isBasis : s.IsBasis p := isBasis
  obtain ⟨inverse, inv, _⟩ := Dictionary.evaluate_of_isBasis isBasis 0
  have values (q : Program Rat m n) : (q.table s inverse).values.get = (p.system.submatrix id s.basicAt)⁻¹ *ᵥ q.bounds.get := by
    rw [table_values, inv_eq_left_inv inv]
  have conclusive : ((p.perturbed ε).table s inverse).IsConclusive := by
    refine isConclusive_of_greatest inv vertex zero (fun i => ?_) greatest
    rw [values]
    exact (generic s isBasis i).1
  obtain ⟨feasible, decided⟩ := conclusive
  refine ⟨s, inverse, inv, fun i => not_lt.1 fun negative => ?_, decided⟩
  rw [values] at negative
  have := feasible i
  rw [values] at this
  exact absurd this (not_le.2 ((generic s isBasis i).2 negative))

end Program

namespace Dictionary

theorem certifies_ofSplit (h : (ofSplit p s).isFeasible = true) : ∃ x, Certifies (ofSplit p s) p x :=
  exists_certifies s.check_partition le_rfl (isBasic_of_isFeasible h)

theorem exists_isOptimal_or_isUnbounded (nonempty : p.region.Nonempty) :
    ∃ s : Split m n, (ofSplit p s).isOptimal = true ∨ (ofSplit p s).isUnbounded = true := by
  obtain ⟨s, inverse, inv, feasible, decided⟩ := Program.exists_isConclusive nonempty
  have reads := (p.table s inverse).says_classify 0 s.partition.basic s.partition.nonBasic
  refine ⟨s, ?_⟩
  rw [ofSplit, build_partition, evaluate_of_inverse inv, isOptimal_evaluated_iff reads, isUnbounded_evaluated_iff reads,
    neg_zero]
  rcases decided with optimal | unbounded
  · exact .inl ⟨feasible, optimal⟩
  · exact .inr ⟨feasible, unbounded⟩

theorem exists_isFeasible_iff : (∃ s : Split m n, (ofSplit p s).isFeasible = true) ↔ p.region.Nonempty := by
  refine ⟨?_, ?_⟩
  · intro h
    obtain ⟨s, feasible⟩ := h
    obtain ⟨x, certified⟩ := certifies_ofSplit feasible
    exact ⟨x, certified.feasible.1 feasible⟩
  · intro nonempty
    obtain ⟨s, optimal | unbounded⟩ := exists_isOptimal_or_isUnbounded nonempty
    · exact ⟨s, isFeasible_of_isOptimal optimal⟩
    · exact ⟨s, isFeasible_of_isUnbounded unbounded⟩

theorem exists_isOptimal_iff : (∃ s : Split m n, (ofSplit p s).isOptimal = true) ↔
    ∃ x ∈ p.region, ∀ y ∈ p.region, p.value y ≤ p.value x := by
  refine ⟨?_, ?_⟩
  · intro h
    obtain ⟨s, optimal⟩ := h
    obtain ⟨x, certified⟩ := certifies_ofSplit (isFeasible_of_isOptimal optimal)
    exact ⟨x, certified.optimal optimal⟩
  · intro h
    obtain ⟨x, mem, greatest⟩ := h
    obtain ⟨s, optimal | unbounded⟩ := exists_isOptimal_or_isUnbounded ⟨x, mem⟩
    · exact ⟨s, optimal⟩
    · obtain ⟨_, certified⟩ := certifies_ofSplit (isFeasible_of_isUnbounded unbounded)
      obtain ⟨_, _, _, passes⟩ := certified.unbounded unbounded
      obtain ⟨y, memY, greater, _⟩ := passes (p.value x)
      exact absurd (greatest y memY) (not_le.2 greater)

theorem exists_isUnbounded_iff : (∃ s : Split m n, (ofSplit p s).isUnbounded = true) ↔
    ∀ bound, ∃ x ∈ p.region, bound < p.value x := by
  refine ⟨?_, ?_⟩
  · intro h bound
    obtain ⟨s, unbounded⟩ := h
    obtain ⟨_, certified⟩ := certifies_ofSplit (isFeasible_of_isUnbounded unbounded)
    obtain ⟨_, _, _, passes⟩ := certified.unbounded unbounded
    obtain ⟨y, mem, greater, _⟩ := passes bound
    exact ⟨y, mem, greater⟩
  · intro passes
    obtain ⟨x, mem, _⟩ := passes 0
    obtain ⟨s, optimal | unbounded⟩ := exists_isOptimal_or_isUnbounded ⟨x, mem⟩
    · obtain ⟨y, certified⟩ := certifies_ofSplit (isFeasible_of_isOptimal optimal)
      obtain ⟨z, memZ, greater⟩ := passes (p.value y)
      exact absurd ((certified.optimal optimal).2 z memZ) (not_le.2 greater)
    · exact ⟨s, unbounded⟩

end Dictionary

end Polyhedra
