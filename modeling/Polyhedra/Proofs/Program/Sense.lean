import Mathlib
import Polyhedra.Proofs.Program.Region

/-!
# Optima in either sense

A problem asks for the greatest or the least value of its own objective. Its program maximises, with the objective
negated if the least value is asked for, so the greatest values of the program are the optima of the problem.
-/

namespace Polyhedra

open Matrix

def Sense.Betters : Sense → Rat → Rat → Prop
  | .max, v, w => w < v
  | .min, v, w => v < w

namespace Problem

def region (p : Problem Rat) : Set (Fin p.numVars → Rat) :=
  {x | 0 ≤ x ∧ p.constraints.toMatrix *ᵥ x ≤ p.bounds.get}

/-- The value of the problem's own objective at a point. -/
def value (p : Problem Rat) (x : Fin p.numVars → Rat) : Rat :=
  p.objective.get ⬝ᵥ x

def IsOptimal (p : Problem Rat) (x : Fin p.numVars → Rat) : Prop :=
  x ∈ p.region ∧ ∀ y ∈ p.region, ¬p.sense.Betters (p.value y) (p.value x)

def IsUnbounded (p : Problem Rat) : Prop :=
  ∀ bound, ∃ x ∈ p.region, p.sense.Betters (p.value x) bound

variable {p : Problem Rat}

theorem region_program (p : Problem Rat) : p.program.region = p.region := rfl

theorem betters_objectiveValue {v w : Rat} : p.sense.Betters (p.objectiveValue v) (p.objectiveValue w) ↔ w < v := by
  rw [objectiveValue, objectiveValue]
  cases p.sense with
  | max => exact Iff.rfl
  | min => exact neg_lt_neg_iff

theorem objectiveValue_objectiveValue (v : Rat) : p.objectiveValue (p.objectiveValue v) = v := by
  rw [objectiveValue, objectiveValue]
  cases p.sense with
  | max => rfl
  | min => exact neg_neg v

/-- The program has the values of the problem, as values to be maximised. -/
theorem objectiveValue_value (x : Fin p.numVars → Rat) : p.objectiveValue (p.program.value x) = p.value x := by
  rw [objectiveValue, Program.value, program, maxObjective]
  split
  · rfl
  · have negated : (Vector.ofFn fun j => p.objective.get j * -1).get = -p.objective.get := by
      funext j
      rw [get_ofFn, Pi.neg_apply]
      exact mul_neg_one _
    change -((Vector.ofFn fun j => p.objective.get j * -1).get ⬝ᵥ x) = p.objective.get ⬝ᵥ x
    rw [negated, neg_dotProduct, neg_neg]

theorem isOptimal_iff {x : Fin p.numVars → Rat} :
    p.IsOptimal x ↔ x ∈ p.program.region ∧ ∀ y ∈ p.program.region, p.program.value y ≤ p.program.value x := by
  rw [IsOptimal, region_program]
  refine and_congr_right fun _ => forall₂_congr fun y _ => ?_
  rw [← objectiveValue_value, ← objectiveValue_value, betters_objectiveValue, not_lt]

theorem isUnbounded_iff : p.IsUnbounded ↔ ∀ bound, ∃ x ∈ p.program.region, bound < p.program.value x := by
  rw [IsUnbounded, region_program]
  refine ⟨?_, ?_⟩
  · intro unbounded bound
    obtain ⟨x, mem, better⟩ := unbounded (p.objectiveValue bound)
    rw [← objectiveValue_value, betters_objectiveValue] at better
    exact ⟨x, mem, better⟩
  · intro unbounded bound
    obtain ⟨x, mem, greater⟩ := unbounded (p.objectiveValue bound)
    rw [← betters_objectiveValue (p := p), objectiveValue_value, objectiveValue_objectiveValue] at greater
    exact ⟨x, mem, greater⟩

theorem IsOptimal.not_isUnbounded {x : Fin p.numVars → Rat} (h : p.IsOptimal x) : ¬p.IsUnbounded := by
  intro unbounded
  obtain ⟨y, mem, better⟩ := unbounded (p.value x)
  exact h.2 y mem better

end Problem

end Polyhedra
