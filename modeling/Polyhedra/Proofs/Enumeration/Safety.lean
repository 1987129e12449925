import Mathlib
import Polyhedra.Proofs.Dictionary.Checked
import Polyhedra.Proofs.Elimination.Divisors
import Polyhedra.Proofs.Enumeration.Accounting
import Polyhedra.Proofs.Enumeration.Consistency

/-!
# A run never breaks off

Over doubles, with a pivot tolerance of zero or more, evaluating a partition never fails, whatever the numbers and the
indices are: only companions of the wrong shape are refused, before anything is evaluated, and no pivot that is divided
by is zero. So a run that is started returns. What can keep it from being started is a limit, or for a pool of workers a
chunk size or a number of workers, that is accepted but cannot be counted up to.
-/

namespace Polyhedra

namespace Enumeration

/-- Every checked step of an evaluation goes through and no divisor is zero. A run returns whenever what its configuration
asks to be counted can be counted. -/
theorem run_never_aborts {pivotTolerance : Float} (nonneg : (0.0 : Float) ≤ pivotTolerance) :
    (∀ (a b c : DenseMatrix Float) (basic nonBasic : List Int) (tolerance : Float),
      (b.size = (a.rows, 1) → c.size = (a.cols, 1) →
        ∃ d, Dictionary.ofMatrices? a b c basic nonBasic tolerance pivotTolerance = .ok d ∧
          Checked.build? a b c basic nonBasic tolerance pivotTolerance = .ok d.answer) ∧
      (b.size ≠ (a.rows, 1) → Checked.build? a b c basic nonBasic tolerance pivotTolerance =
        .error (.matrix (.companion .bounds false a.size b.size))) ∧
      (b.size = (a.rows, 1) → c.size ≠ (a.cols, 1) → Checked.build? a b c basic nonBasic tolerance pivotTolerance =
        .error (.matrix (.companion .objective false a.size c.size)))) ∧
    (∀ (n : Nat) (g : Grid Float n n), ∀ x ∈ g.divisors pivotTolerance, (x == 0.0) = false) ∧
    ∀ (p : Problem Float) (c : Config Float), c.pivotTolerance = pivotTolerance →
      (∀ partition : Partition, Checked.build? ⟨p.numConstraints, p.numVars, p.constraints⟩
        ⟨p.numConstraints, 1, .ofColumn p.bounds⟩ ⟨p.numVars, 1, .ofColumn p.maxObjective⟩ partition.basic
        partition.nonBasic c.tolerance pivotTolerance = .ok (c.evaluate p partition).answer) ∧
      ∀ probe progress, (∃ e, enumerate? p c probe progress = .ok e) ↔
        (∀ limit ∈ c.limit, limit ≤ countingLimit) ∧
          (1 < c.workers → c.workers ≤ workerLimit ∧ c.chunkSize ≤ countingLimit) := by
  refine ⟨fun a b c basic nonBasic tolerance => ⟨?_, ?_, ?_⟩, fun n g x mem => ?_, fun p c same => ⟨?_, ?_⟩⟩
  · exact Checked.build?_of_companions basic nonBasic tolerance pivotTolerance
  · exact Checked.build?_of_bounds_ne basic nonBasic tolerance pivotTolerance
  · exact Checked.build?_of_objective_ne basic nonBasic tolerance pivotTolerance
  · exact Grid.eq_zero_of_mem_divisors (Scalar.barsZero_of_nonneg nonneg) mem
  · intro partition
    rw [← same]
    exact Checked.build?_program p.program partition.basic partition.nonBasic c.tolerance c.pivotTolerance
  · intro probe progress
    rw [enumerate?, ← Config.obstacle?_eq_none_iff]
    cases c.obstacle? with
    | none => exact iff_of_true ⟨_, rfl⟩ rfl
    | some obstacle => simp

theorem run_of_blurred_never_aborts :
    (0.0 : Float) ≤ rounded.pivotTolerance ∧
      (∃ answer, Checked.build? ⟨1, 1, blurred.constraints⟩ ⟨1, 1, .ofColumn blurred.bounds⟩
        ⟨1, 1, .ofColumn blurred.maxObjective⟩ [0] [1] rounded.tolerance rounded.pivotTolerance = .ok answer) ∧
      ∃ e, enumerate? blurred rounded (fun _ => false) (fun _ _ => false) = .ok e := by
  have nonneg : (0.0 : Float) ≤ rounded.pivotTolerance := by decide +kernel
  obtain ⟨_, _, runs⟩ := run_never_aborts nonneg
  obtain ⟨evaluated, starts⟩ := runs blurred rounded rfl
  exact ⟨nonneg, ⟨_, evaluated ⟨[0], [1]⟩⟩, (starts _ _).2 ⟨nofun, by decide⟩⟩

/-- A limit past what can be counted off is accepted, and then no problem is enumerated. -/
theorem run_past_counting_limit_is_refused :
    ∃ c, (vast : ConfigRequest Float).config? = .ok c ∧ (0.0 : Float) ≤ c.pivotTolerance ∧
      ∀ (p : Problem Float) (probe : Probe) (progress : Progress),
        enumerate? p c probe progress = .error .uncountable := by
  refine ⟨_, rfl, by decide +kernel, fun p probe progress => rfl⟩

end Enumeration

end Polyhedra
