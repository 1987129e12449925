import Mathlib
import Polyhedra.Problem
import Polyhedra.Proofs.ExactGrid

/-!
# The region of a program

The points a program is about, and the same points with their slacks. With slacks the constraints become equations
`[A | I] x = b` between non-negative numbers, and the slacks are determined by the point, so a statement about the
solutions of the equations is a statement about the region.
-/

namespace Polyhedra.Program

open Matrix

variable {m n : Nat}

def region (p : Program Rat m n) : Set (Fin n → Rat) :=
  {x | 0 ≤ x ∧ p.constraints.toMatrix *ᵥ x ≤ p.bounds.get}

def value (p : Program Rat m n) (x : Fin n → Rat) : Rat :=
  p.objective.get ⬝ᵥ x

/-- The matrix `[A | I]`. -/
def system (p : Program Rat m n) : Matrix (Fin m) (Fin (n + m)) Rat :=
  .of fun i => Fin.append (p.constraints.entry i) (Pi.single i 1)

def fullObjective (p : Program Rat m n) : Fin (n + m) → Rat :=
  Fin.append p.objective.get 0

/-- The first coordinates of a vector, which are those of a point. -/
def structural (x : Fin (n + m) → Rat) : Fin n → Rat :=
  fun j => x (j.castAdd m)

def withSlacks (p : Program Rat m n) (x : Fin n → Rat) : Fin (n + m) → Rat :=
  Fin.append x (p.bounds.get - p.constraints.toMatrix *ᵥ x)

@[simp] theorem structural_withSlacks (p : Program Rat m n) (x : Fin n → Rat) : structural (p.withSlacks x) = x := by
  funext j
  exact Fin.append_left _ _ j

theorem structural_add_smul (x w : Fin (n + m) → Rat) (step : Rat) :
    structural (x + step • w) = structural x + step • structural w := rfl

theorem system_mulVec (p : Program Rat m n) (x : Fin (n + m) → Rat) (i : Fin m) :
    (p.system *ᵥ x) i = (p.constraints.toMatrix *ᵥ structural x) i + x (i.natAdd n) := by
  rw [mulVec, dotProduct, Fin.sum_univ_add]
  congr 1
  · apply Finset.sum_congr rfl
    intro j _
    rw [system, of_apply, Fin.append_left]
    rfl
  · rw [Finset.sum_eq_single i]
    · rw [system, of_apply, Fin.append_right, Pi.single_eq_same, one_mul]
    · intro l _ hl
      rw [system, of_apply, Fin.append_right, Pi.single_eq_of_ne hl, zero_mul]
    · exact fun absent => absurd (Finset.mem_univ i) absent

/-- The solutions of the equations are the points with their slacks. -/
theorem system_mulVec_eq_iff (p : Program Rat m n) (x : Fin (n + m) → Rat) :
    p.system *ᵥ x = p.bounds.get ↔ x = p.withSlacks (structural x) := by
  refine ⟨?_, ?_⟩
  · intro solves
    funext k
    refine Fin.addCases (fun j => ?_) (fun i => ?_) k
    · rw [withSlacks, Fin.append_left]
      rfl
    · rw [withSlacks, Fin.append_right, Pi.sub_apply, ← solves, system_mulVec, add_sub_cancel_left]
  · intro slacks
    funext i
    have own := congrFun slacks (i.natAdd n)
    rw [withSlacks, Fin.append_right, Pi.sub_apply] at own
    rw [system_mulVec, own, add_sub_cancel]

theorem withSlacks_structural {p : Program Rat m n} {x : Fin (n + m) → Rat} (solves : p.system *ᵥ x = p.bounds.get) :
    p.withSlacks (structural x) = x :=
  ((p.system_mulVec_eq_iff x).1 solves).symm

theorem system_mulVec_withSlacks (p : Program Rat m n) (x : Fin n → Rat) : p.system *ᵥ p.withSlacks x = p.bounds.get := by
  rw [system_mulVec_eq_iff, structural_withSlacks]

theorem mem_region_iff (p : Program Rat m n) (x : Fin n → Rat) : x ∈ p.region ↔ 0 ≤ p.withSlacks x := by
  refine ⟨?_, ?_⟩
  · intro ⟨nonneg, below⟩ k
    refine Fin.addCases (fun j => ?_) (fun i => ?_) k
    · rw [withSlacks, Fin.append_left]
      exact nonneg j
    · rw [withSlacks, Fin.append_right]
      exact sub_nonneg.2 (below i)
  · intro nonneg
    refine ⟨fun j => ?_, fun i => ?_⟩
    · have := nonneg (j.castAdd m)
      rwa [withSlacks, Fin.append_left] at this
    · have := nonneg (i.natAdd n)
      rw [withSlacks, Fin.append_right] at this
      exact sub_nonneg.1 this

theorem structural_mem_region (p : Program Rat m n) {x : Fin (n + m) → Rat} (solves : p.system *ᵥ x = p.bounds.get)
    (nonneg : 0 ≤ x) : structural x ∈ p.region := by
  rw [mem_region_iff, ← (p.system_mulVec_eq_iff x).1 solves]
  exact nonneg

theorem fullObjective_dotProduct (p : Program Rat m n) (x : Fin (n + m) → Rat) :
    p.fullObjective ⬝ᵥ x = p.value (structural x) := by
  rw [dotProduct, Fin.sum_univ_add, Finset.sum_eq_zero (s := (Finset.univ : Finset (Fin m))), add_zero]
  · apply Finset.sum_congr rfl
    intro j _
    rw [fullObjective, Fin.append_left]
    rfl
  · intro i _
    rw [fullObjective, Fin.append_right, Pi.zero_apply, zero_mul]

/-- The program of `2x + y ≤ 4` and `4x - y ≤ 6` with the objective `3x + y`. -/
def wedge : Program Rat 2 2 :=
  ⟨.ofLists 0 [[2, 1], [4, -1]], #v[4, 6], #v[3, 1]⟩

end Polyhedra.Program
