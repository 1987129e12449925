import Mathlib
import Polyhedra.Proofs.Program.Bases

/-!
# Vertices of a program

A vertex is a point of the region that uses only independent columns. The vertices are the extreme points of the region,
and they are the points whose non-basic coordinates are zero for some basis, so there are finitely many. A region with
any point has a vertex: from a point that uses dependent columns one can move, without leaving the region, until some
coordinate becomes zero.
-/

namespace Polyhedra.Program

open Matrix

variable {m n : Nat} {p : Program Rat m n}

/-- A point of the region that uses only independent columns. -/
structure IsVertex (p : Program Rat m n) (x : Fin n → Rat) : Prop where
  mem_region : x ∈ p.region
  independent : LinearIndepOn Rat p.system.col (Function.support (p.withSlacks x))

/-! ### Moving through the region -/

/-- From a vector without negative coordinates one can move in a direction that falls somewhere until a falling
coordinate is zero, and no coordinate is negative then. -/
theorem exists_ratio {ι : Type} [Fintype ι] {z w : ι → Rat} (nonneg : 0 ≤ z) (falls : ∃ k, w k < 0) :
    ∃ step : Rat, 0 ≤ step ∧ 0 ≤ z + step • w ∧ ∃ k, w k < 0 ∧ z k + step * w k = 0 := by
  obtain ⟨l, hl⟩ := falls
  obtain ⟨k, hk, least⟩ := Finset.exists_min_image (Finset.univ.filter fun k => w k < 0) (fun k => z k / -w k)
    ⟨l, Finset.mem_filter.2 ⟨Finset.mem_univ l, hl⟩⟩
  have fallsAt : w k < 0 := (Finset.mem_filter.1 hk).2
  have step_nonneg : 0 ≤ z k / -w k := div_nonneg (nonneg k) (neg_nonneg.2 fallsAt.le)
  refine ⟨z k / -w k, step_nonneg, fun i => ?_, k, fallsAt, ?_⟩
  · change 0 ≤ z i + z k / -w k * w i
    rcases lt_or_ge (w i) 0 with negative | positive
    · have ratio := least i (Finset.mem_filter.2 ⟨Finset.mem_univ i, negative⟩)
      rw [le_div_iff₀ (neg_pos.2 negative)] at ratio
      linarith
    · exact add_nonneg (nonneg i) (mul_nonneg step_nonneg positive)
  · rw [div_neg, neg_mul, div_mul_cancel₀ _ fallsAt.ne, add_neg_cancel]

theorem system_mulVec_add_smul {x w : Fin (n + m) → Rat} (solves : p.system *ᵥ x = p.bounds.get)
    (maps : p.system *ᵥ w = 0) (step : Rat) : p.system *ᵥ (x + step • w) = p.bounds.get := by
  rw [mulVec_add, mulVec_smul, solves, maps, smul_zero, add_zero]

/-! ### Vertices and bases -/

/-- A vertex is a point whose non-basic coordinates are zero for some basis. -/
theorem isVertex_iff_exists_isBasis {x : Fin n → Rat} : p.IsVertex x ↔
    x ∈ p.region ∧ ∃ s : Split m n, s.IsBasis p ∧ ∀ j, p.withSlacks x (s.nonBasicAt j) = 0 := by
  refine ⟨?_, ?_⟩
  · intro h
    obtain ⟨mem, independent⟩ := h
    obtain ⟨s, isBasis, inside⟩ := exists_isBasis independent
    refine ⟨mem, s, isBasis, fun j => by_contra fun used => ?_⟩
    exact Split.not_mem_basic.2 ⟨j, rfl⟩ (inside _ used)
  · intro h
    obtain ⟨mem, s, isBasis, zero⟩ := h
    refine ⟨mem, linearIndepOn_iff.2 fun w maps outside => isBasis.eq_zero maps fun j => outside _ ?_⟩
    exact Function.notMem_support.2 (zero j)

theorem finite_setOf_isVertex (p : Program Rat m n) : {x | p.IsVertex x}.Finite := by
  have basis (x : {x | p.IsVertex x}) := (isVertex_iff_exists_isBasis.1 x.2).2
  choose s isBasis zero using basis
  refine Finite.of_injective s fun x y same => Subtype.ext ?_
  apply (isBasis y).eq_of_withSlacks
  intro j
  rw [zero y, ← same, zero x]

/-! ### Existence -/

/-- If columns are dependent, then some combination of them is zero with a negative coefficient. -/
theorem exists_falling_of_dependent {S : Set (Fin (n + m))} (dependent : ¬LinearIndepOn Rat p.system.col S) :
    ∃ w : Fin (n + m) → Rat, p.system *ᵥ w = 0 ∧ (∀ k ∉ S, w k = 0) ∧ ∃ k, w k < 0 := by
  rw [linearIndepOn_iff] at dependent
  push Not at dependent
  obtain ⟨w, maps, outside, nonzero⟩ := dependent
  obtain ⟨k, hk⟩ := Function.ne_iff.1 nonzero
  rcases lt_or_gt_of_ne hk with negative | positive
  · exact ⟨w, maps, outside, k, negative⟩
  · refine ⟨-w, ?_, ?_, k, neg_neg_of_pos positive⟩
    · rw [mulVec_neg, maps, neg_zero]
    · intro l hl
      rw [Pi.neg_apply, outside l hl, neg_zero]

/-- A point that uses dependent columns can be moved to one that uses fewer. -/
theorem exists_fewer_of_dependent {x : Fin n → Rat} (mem : x ∈ p.region)
    (dependent : ¬LinearIndepOn Rat p.system.col (Function.support (p.withSlacks x))) :
    ∃ y ∈ p.region, Function.support (p.withSlacks y) ⊂ Function.support (p.withSlacks x) := by
  obtain ⟨w, maps, outside, falls⟩ := exists_falling_of_dependent dependent
  obtain ⟨step, _, nonneg, k, falls, zero⟩ := exists_ratio ((p.mem_region_iff x).1 mem) falls
  have solves := system_mulVec_add_smul (p.system_mulVec_withSlacks x) maps step
  refine ⟨_, p.structural_mem_region solves nonneg, ?_⟩
  rw [withSlacks_structural solves]
  refine Set.ssubset_iff_exists.2 ⟨?_, k, ?_, ?_⟩
  · intro l used
    by_contra unused
    apply used
    rw [Pi.add_apply, Pi.smul_apply, Function.notMem_support.1 unused, outside l unused, smul_zero, add_zero]
  · by_contra unused
    exact falls.ne (outside k unused)
  · exact Function.notMem_support.2 zero

theorem exists_isVertex (nonempty : p.region.Nonempty) : ∃ x, p.IsVertex x := by
  obtain ⟨x, mem, least⟩ := exists_minimalFor_of_wellFoundedLT (· ∈ p.region)
    (fun x => Function.support (p.withSlacks x)) nonempty
  refine ⟨x, mem, by_contra fun dependent => ?_⟩
  obtain ⟨y, memY, fewer⟩ := exists_fewer_of_dependent mem dependent
  exact fewer.2 (least memY fewer.1)

/-! ### Extreme points -/

theorem IsVertex.mem_extremePoints {x : Fin n → Rat} (h : p.IsVertex x) : x ∈ p.region.extremePoints Rat := by
  obtain ⟨mem, s, isBasis, zero⟩ := isVertex_iff_exists_isBasis.1 h
  refine ⟨mem, fun x₁ mem₁ x₂ mem₂ between => ?_⟩
  obtain ⟨a, b, ha, hb, whole, rfl⟩ := between
  have solves : p.system *ᵥ (a • p.withSlacks x₁ + b • p.withSlacks x₂) = p.bounds.get := by
    rw [mulVec_add, mulVec_smul, mulVec_smul, system_mulVec_withSlacks, system_mulVec_withSlacks, ← add_smul, whole,
      one_smul]
  have slacks : p.withSlacks (a • x₁ + b • x₂) = a • p.withSlacks x₁ + b • p.withSlacks x₂ := by
    rw [← withSlacks_structural solves, structural_add_smul]
    rw [show structural (a • p.withSlacks x₁) = a • structural (p.withSlacks x₁) from rfl]
    rw [structural_withSlacks, structural_withSlacks]
  have others (j : Fin n) : p.withSlacks x₁ (s.nonBasicAt j) = p.withSlacks (a • x₁ + b • x₂) (s.nonBasicAt j) := by
    have nonneg₁ := mul_nonneg ha.le ((p.mem_region_iff x₁).1 mem₁ (s.nonBasicAt j))
    have nonneg₂ := mul_nonneg hb.le ((p.mem_region_iff x₂).1 mem₂ (s.nonBasicAt j))
    have sum : a * p.withSlacks x₁ (s.nonBasicAt j) + b * p.withSlacks x₂ (s.nonBasicAt j) = 0 := by
      rw [← zero j, slacks]
      rfl
    rw [zero j]
    exact (mul_eq_zero.1 (le_antisymm (by linarith) nonneg₁)).resolve_left ha.ne'
  exact isBasis.eq_of_withSlacks others

/-- An extreme point uses only independent columns, for otherwise it could move back and forth. -/
theorem isVertex_of_mem_extremePoints {x : Fin n → Rat} (h : x ∈ p.region.extremePoints Rat) : p.IsVertex x := by
  obtain ⟨mem, extreme⟩ := h
  refine ⟨mem, linearIndepOn_iff.2 fun w maps outside => by_contra fun nonzero => ?_⟩
  have nonneg := (p.mem_region_iff x).1 mem
  obtain ⟨k, hk⟩ := Function.ne_iff.1 nonzero
  -- Room for a step along the negated absolute value leaves room for the step along the vector in both directions.
  obtain ⟨step, step_nonneg, room, l, moves, zero⟩ := exists_ratio (w := -|w|) nonneg ⟨k, neg_neg_of_pos (abs_pos.2 hk)⟩
  have step_ne : step ≠ 0 := by
    intro same
    subst same
    rw [zero_mul, add_zero] at zero
    refine moves.ne (neg_eq_zero.2 (abs_eq_zero.2 (outside l ?_)))
    exact Function.notMem_support.2 zero
  have forth : 0 ≤ p.withSlacks x + step • w :=
    room.trans (add_le_add le_rfl (smul_le_smul_of_nonneg_left (neg_le.1 (neg_le_abs w)) step_nonneg))
  have back : 0 ≤ p.withSlacks x + -step • w := by
    rw [neg_smul, ← smul_neg]
    exact room.trans (add_le_add le_rfl (smul_le_smul_of_nonneg_left (neg_le_neg (le_abs_self w)) step_nonneg))
  have solves := system_mulVec_add_smul (p.system_mulVec_withSlacks x) maps
  have between : x ∈ openSegment Rat (structural (p.withSlacks x + step • w))
      (structural (p.withSlacks x + -step • w)) := by
    refine ⟨1 / 2, 1 / 2, by norm_num, by norm_num, by norm_num, ?_⟩
    rw [structural_add_smul, structural_add_smul, structural_withSlacks]
    module
  have same := extreme (p.structural_mem_region (solves step) forth) (p.structural_mem_region (solves (-step)) back) between
  have still : p.withSlacks x + step • w = p.withSlacks x := by
    rw [← withSlacks_structural (solves step), same]
  exact nonzero ((smul_eq_zero.1 (add_eq_left.1 still)).resolve_left step_ne)

end Polyhedra.Program
