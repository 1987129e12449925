import Mathlib
import Polyhedra.Crosscheck
import Polyhedra.Proofs.Enumeration.Optimum

/-!
# What a mismatch means

An exact run may be cut short, but it states nothing wrong: its first optimal dictionary has the optimum, and it has no
unbounded one unless the objective has no bound. So if it disagrees with an exact solver then it did not come to a
dictionary that would settle the problem, and a run over all partitions always agrees.
-/

namespace Polyhedra

/-- The outcome of an exact solver for a program, which minimises the negated objective. -/
def SolverOutcome.IsExact {m n : Nat} (p : Program Rat m n) : SolverOutcome Rat → Prop
  | optimal least => ∃ x ∈ p.region, least = -p.value x ∧ ∀ y ∈ p.region, least ≤ -p.value y
  | infeasible => p.region = ∅
  | unbounded => ∀ bound, ∃ x ∈ p.region, -p.value x < bound
  | undecided => False

/-- A run without a dictionary that would settle the problem: there is an optimum but no optimal dictionary, or no bound
but no unbounded one. -/
def Enumeration.Misses (e : Enumeration Rat) (p : Problem Rat) : Prop :=
  ((∃ x, p.IsOptimal x) ∧ ¬∃ d ∈ e.dictionaries, d.isOptimal = true) ∨
    (p.IsUnbounded ∧ ¬∃ d ∈ e.dictionaries, d.isUnbounded = true)

namespace SolverOutcome.IsExact

variable {p : Problem Rat}

theorem exists_isOptimal {least : Rat} (h : (optimal least).IsExact p.program) :
    ∃ x, p.IsOptimal x ∧ p.objectiveValue (-least) = p.value x := by
  obtain ⟨x, mem, rfl, lower⟩ := h
  refine ⟨x, Problem.isOptimal_iff.2 ⟨mem, fun y memY => neg_le_neg_iff.1 (lower y memY)⟩, ?_⟩
  rw [neg_neg, Problem.objectiveValue_value]

theorem isUnbounded (h : unbounded.IsExact p.program) : p.IsUnbounded := by
  rw [Problem.isUnbounded_iff]
  intro bound
  obtain ⟨x, mem, below⟩ := h (-bound)
  exact ⟨x, mem, neg_lt_neg_iff.1 below⟩

theorem not_exists_isOptimal (h : infeasible.IsExact p.program) : ¬∃ x, p.IsOptimal x := by
  intro attained
  obtain ⟨x, mem, _⟩ := attained
  exact Set.eq_empty_iff_forall_notMem.1 h x mem

theorem not_isUnbounded (h : infeasible.IsExact p.program) : ¬p.IsUnbounded := by
  intro unbounded
  obtain ⟨x, mem, _⟩ := unbounded 0
  exact Set.eq_empty_iff_forall_notMem.1 h x mem

end SolverOutcome.IsExact

theorem SolverOutcome.isExact_of_isOptimal {p : Problem Rat} {x : Fin p.numVars → Rat} (h : p.IsOptimal x) :
    (optimal (-p.objectiveValue (p.value x))).IsExact p.program := by
  obtain ⟨mem, greatest⟩ := Problem.isOptimal_iff.1 h
  rw [← Problem.objectiveValue_value, Problem.objectiveValue_objectiveValue]
  exact ⟨x, mem, rfl, fun y memY => neg_le_neg (greatest y memY)⟩

theorem Problem.IsUnbounded.not_exists_isOptimal {p : Problem Rat} (h : p.IsUnbounded) : ¬∃ x, p.IsOptimal x := by
  intro attained
  obtain ⟨x, optimum⟩ := attained
  exact optimum.not_isUnbounded h

/-- Two optima have the same value. -/
theorem Problem.IsOptimal.value_eq {p : Problem Rat} {x y : Fin p.numVars → Rat} (hx : p.IsOptimal x)
    (hy : p.IsOptimal y) : p.value x = p.value y := by
  have greatestX := Problem.isOptimal_iff.1 hx
  have greatestY := Problem.isOptimal_iff.1 hy
  rw [← Problem.objectiveValue_value, ← Problem.objectiveValue_value,
    le_antisymm (greatestY.2 x greatestX.1) (greatestX.2 y greatestY.1)]

theorem Crosscheck.isNear_self {tolerance : Rat} (nonneg : 0 ≤ tolerance) (v : Rat) :
    isNear tolerance v v = true := by
  rw [isNear, Scalar.le_iff, sub_self, Scalar.abs_eq, abs_zero]
  apply mul_nonneg nonneg
  split
  · rw [Scalar.abs_eq]
    exact abs_nonneg v
  · exact zero_le_one

namespace Enumeration

variable {p : Problem Rat} {c : Config Rat} {probe : Probe} {progress : Progress} {e : Enumeration Rat}
  {tolerance : Rat}

section Exact

variable (run : enumerate? p c probe progress = .ok e) (exact : c.IsExact)

include run exact

theorem exists_isOptimal_of_mem {d : Dictionary Rat} (mem : d ∈ e.dictionaries) (optimal : d.isOptimal = true) :
    ∃ x, p.IsOptimal x ∧ e.optimalValue? = some (p.value x) := by
  obtain ⟨first, found⟩ := Option.isSome_iff_exists.1 (List.find?_isSome.2 ⟨d, mem, optimal⟩)
  obtain ⟨x, optimum, _, value⟩ := exists_isOptimal_of_optimal? run exact found
  exact ⟨x, optimum, value⟩

theorem optimalValue?_of_not_exists (unattained : ¬∃ x, p.IsOptimal x) : e.optimalValue? = none := by
  apply optimalValue?_eq_none
  intro found
  obtain ⟨d, mem, optimal⟩ := found
  obtain ⟨x, optimum, _⟩ := exists_isOptimal_of_mem run exact mem optimal
  exact unattained ⟨x, optimum⟩

theorem isUnbounded_of_not_isUnbounded (bounded : ¬p.IsUnbounded) : e.isUnbounded = false := by
  apply isUnbounded_eq_false
  intro found
  obtain ⟨d, mem, unbounded⟩ := found
  exact bounded (isUnbounded_of_mem run exact mem unbounded)

end Exact

/-- An exact run over all partitions comes to a dictionary that settles the problem. -/
theorem not_misses_of_exhaustive (run : enumerate? p c probe progress = .ok e) (exhaustive : c.IsExhaustive)
    (uncancelled : e.cancelled = false) : ¬e.Misses p := by
  intro misses
  rcases misses with ⟨attained, missing⟩ | ⟨unbounded, missing⟩
  · exact missing ((exists_isOptimal_iff_exists run exhaustive uncancelled).2 attained)
  · exact missing (List.any_eq_true.1 ((isUnbounded_iff_isUnbounded run exhaustive uncancelled).2 unbounded))

/-! ### The comparison -/

section Compare

variable {outcome : SolverOutcome Rat}

theorem agrees_of_misses (solver : outcome.IsExact p.program) (misses : e.Misses p) :
    (Crosscheck.compare p outcome tolerance e.optimalValue? e.isUnbounded).agrees = some false := by
  cases outcome with
  | optimal least =>
    obtain ⟨x, optimum, _⟩ := solver.exists_isOptimal
    rcases misses with ⟨_, missing⟩ | ⟨unbounded, _⟩
    · rw [optimalValue?_eq_none missing]
      rfl
    · exact absurd unbounded optimum.not_isUnbounded
  | unbounded =>
    rcases misses with ⟨attained, _⟩ | ⟨_, missing⟩
    · exact absurd attained solver.isUnbounded.not_exists_isOptimal
    · rw [isUnbounded_eq_false missing]
      exact congrArg some (Bool.and_false _)
  | infeasible =>
    rcases misses with ⟨attained, _⟩ | ⟨unbounded, _⟩
    · exact absurd attained solver.not_exists_isOptimal
    · exact absurd unbounded solver.not_isUnbounded
  | undecided => exact solver.elim

theorem agrees_of_not_misses (run : enumerate? p c probe progress = .ok e) (exact : c.IsExact)
    (solver : outcome.IsExact p.program) (nonneg : 0 ≤ tolerance) (covers : ¬e.Misses p) :
    (Crosscheck.compare p outcome tolerance e.optimalValue? e.isUnbounded).agrees = some true := by
  cases outcome with
  | optimal least =>
    obtain ⟨x, optimum, value⟩ := solver.exists_isOptimal
    obtain ⟨d, mem, optimal⟩ : ∃ d ∈ e.dictionaries, d.isOptimal = true := by
      by_contra missing
      exact covers (.inl ⟨⟨x, optimum⟩, missing⟩)
    obtain ⟨y, optimum', value'⟩ := exists_isOptimal_of_mem run exact mem optimal
    rw [value', optimum'.value_eq optimum, ← value]
    exact congrArg some (Crosscheck.isNear_self nonneg _)
  | unbounded =>
    have passes := solver.isUnbounded
    have found : e.isUnbounded = true := by
      rw [isUnbounded, List.any_eq_true]
      by_contra missing
      exact covers (.inr ⟨passes, missing⟩)
    rw [optimalValue?_of_not_exists run exact passes.not_exists_isOptimal, found]
    rfl
  | infeasible =>
    rw [optimalValue?_of_not_exists run exact solver.not_exists_isOptimal,
      isUnbounded_of_not_isUnbounded run exact solver.not_isUnbounded]
    rfl
  | undecided => exact solver.elim

/-- Held against an exact solver, an exact run of any problem, over any shard, with any limit and stopped at any moment,
disagrees exactly if it left out every dictionary that would settle the problem, and agrees otherwise. So a run over all
partitions that is not stopped agrees. -/
theorem mismatch_iff_misses (p : Problem Rat) (c : Config Rat) (probe : Probe) (progress : Progress)
    (e : Enumeration Rat) (outcome : SolverOutcome Rat) (tolerance : Rat)
    (run : enumerate? p c probe progress = .ok e) (exact : c.IsExact) (solver : outcome.IsExact p.program)
    (nonneg : 0 ≤ tolerance) :
    ((Crosscheck.compare p outcome tolerance e.optimalValue? e.isUnbounded).agrees = some false ↔ e.Misses p) ∧
    ((Crosscheck.compare p outcome tolerance e.optimalValue? e.isUnbounded).agrees = some true ↔ ¬e.Misses p) ∧
    (c.shard = none → c.limit = none → e.cancelled = false →
      (Crosscheck.compare p outcome tolerance e.optimalValue? e.isUnbounded).agrees = some true) := by
  have agrees := agrees_of_not_misses run exact solver nonneg
  refine ⟨⟨?_, agrees_of_misses solver⟩, ⟨?_, agrees⟩, ?_⟩
  · intro differs
    by_contra covers
    rw [agrees covers] at differs
    cases differs
  · intro same misses
    rw [agrees_of_misses solver misses] at same
    cases same
  · intro shard limit uncancelled
    exact agrees (not_misses_of_exhaustive run ⟨shard, limit, exact.tolerance, exact.pivotTolerance⟩ uncancelled)

end Compare

def half : Config Rat :=
  { Config.exact 1 Nat.one_pos with shard := some ⟨1, 2, Nat.one_lt_two⟩ }

theorem mismatch_of_half_ramp : ∃ e,
    enumerate? .ramp half (fun _ => false) (fun _ _ => false) = .ok e ∧ half.IsExact ∧
      (SolverOutcome.optimal (-3 / 2)).IsExact Problem.ramp.program ∧ (0 : Rat) ≤ 0 ∧
      (Crosscheck.compare .ramp (.optimal (-3 / 2)) 0 e.optimalValue? e.isUnbounded).agrees = some false := by
  have whole : enumerate? .ramp (.exact 1 Nat.one_pos) (fun _ => false) (fun _ _ => false) =
      .ok (enumerate .ramp (.exact 1 Nat.one_pos) (fun _ => false) fun _ _ => false) := rfl
  have run : enumerate? .ramp half (fun _ => false) (fun _ _ => false) =
      .ok (enumerate .ramp half (fun _ => false) fun _ _ => false) := rfl
  have exact : half.IsExact := ⟨rfl, rfl⟩
  have found : (enumerate .ramp (.exact 1 Nat.one_pos) (fun _ => false) fun _ _ => false).dictionaries.any
      Dictionary.isOptimal = true := by decide +kernel
  obtain ⟨d, mem, optimal⟩ := List.any_eq_true.1 found
  obtain ⟨x, optimum, value⟩ := exists_isOptimal_of_mem whole ⟨rfl, rfl⟩ mem optimal
  have least : Problem.ramp.value x = -3 / 2 := Option.some.inj (value.symm.trans (by decide +kernel))
  have sign : -Problem.ramp.objectiveValue (-3 / 2) = -3 / 2 := by decide +kernel
  have solver := SolverOutcome.isExact_of_isOptimal optimum
  rw [least, sign] at solver
  have misses : (enumerate .ramp half (fun _ => false) fun _ _ => false).Misses .ramp := by
    refine .inl ⟨⟨x, optimum⟩, ?_⟩
    rw [← List.any_eq_true]
    decide +kernel
  exact ⟨_, run, exact, solver, le_rfl, (mismatch_iff_misses _ _ _ _ _ _ 0 run exact solver le_rfl).1.2 misses⟩

end Enumeration

end Polyhedra
