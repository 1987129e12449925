import Mathlib
import Polyhedra.Proofs.Dictionary.Fundamental
import Polyhedra.Proofs.Enumeration.Schedule
import Polyhedra.Proofs.Program.Sense

/-!
# What a whole enumeration finds

An exact enumeration of all partitions decides its problem. Each dictionary certifies what it says, so nothing wrong is
found, and if the region has a point then the dictionary of some partition is optimal or unbounded, so nothing is missed.
-/

namespace Polyhedra

variable {p : Problem Rat} {c : Config Rat} {probe : Probe} {progress : Progress} {e : Enumeration Rat}

/-- A configuration that leaves out no partition and takes nothing but zero for zero. -/
structure Config.IsExhaustive (c : Config Rat) : Prop where
  shard : c.shard = none
  limit : c.limit = none
  tolerance : c.tolerance = 0
  pivotTolerance : c.pivotTolerance = 0

structure Config.IsExact (c : Config Rat) : Prop where
  tolerance : c.tolerance = 0
  pivotTolerance : c.pivotTolerance = 0

theorem Config.IsExhaustive.isExact (h : c.IsExhaustive) : c.IsExact :=
  ⟨h.tolerance, h.pivotTolerance⟩

def Config.exact (workers : Nat) (positive : 0 < workers) : Config Rat where
  workers := workers
  workers_pos := positive
  chunkSize := 1
  chunkSize_pos := Nat.one_pos
  shard := none
  limit := none
  tolerance := 0
  pivotTolerance := 0
  verify := false
  verifyDigits := 50
  crosscheck := false
  output := none
  verbose := false

theorem Config.isExhaustive_exact {workers : Nat} (positive : 0 < workers) : (exact workers positive).IsExhaustive :=
  ⟨rfl, rfl, rfl, rfl⟩

/-- The problem of the least value of `-3x` where `2x ≤ 1`. -/
def Problem.ramp : Problem Rat :=
  ⟨1, 1, .ofLists 0 [[2]], #v[1], #v[-3], .min⟩

theorem Problem.isOptimal_or_isUnbounded (nonempty : p.region.Nonempty) : (∃ x, p.IsOptimal x) ∨ p.IsUnbounded := by
  obtain ⟨s, optimal | unbounded⟩ := Dictionary.exists_isOptimal_or_isUnbounded (p := p.program) nonempty
  · obtain ⟨x, greatest⟩ := Dictionary.exists_isOptimal_iff.1 ⟨s, optimal⟩
    exact .inl ⟨x, Problem.isOptimal_iff.2 greatest⟩
  · exact .inr (Problem.isUnbounded_iff.2 (Dictionary.exists_isUnbounded_iff.1 ⟨s, unbounded⟩))

namespace Enumeration

/-! ### What any exact run finds -/

section Exact

variable (run : enumerate? p c probe progress = .ok e) (exact : c.IsExact)

include run exact

theorem exists_ofSplit {d : Dictionary Rat} (mem : d ∈ e.dictionaries) :
    ∃ s : Split p.numConstraints p.numVars, Dictionary.ofSplit p.program s = d := by
  obtain ⟨partition, among, rfl⟩ := exists_of_mem_dictionaries run mem
  obtain ⟨s, rfl⟩ := Split.mem_all.1 among
  refine ⟨s, ?_⟩
  rw [Config.evaluate, exact.tolerance, exact.pivotTolerance]
  rfl

/-- The first optimal dictionary of a run, even if it is cut short, states the optimum and a point that attains it. -/
theorem exists_isOptimal_of_optimal? {d : Dictionary Rat} (first : e.optimal? = some d) :
    ∃ x, p.IsOptimal x ∧ e.optimalPoint? = some (List.ofFn x) ∧ e.optimalValue? = some (p.value x) := by
  obtain ⟨s, rfl⟩ := exists_ofSplit run exact (List.mem_of_find?_eq_some first)
  have optimal := List.find?_some first
  obtain ⟨x, certified⟩ := Dictionary.certifies_ofSplit (Dictionary.isFeasible_of_isOptimal optimal)
  refine ⟨x, Problem.isOptimal_iff.2 (certified.optimal optimal), ?_, ?_⟩
  · rw [optimalPoint?, first, Option.map_some, certified.point]
  · obtain rfl := eq_enumerate_of_run run
    rw [optimalValue?, first, Option.bind_some, certified.zeta, Option.map_some]
    exact congrArg some (Problem.objectiveValue_value x)

theorem isUnbounded_of_mem {d : Dictionary Rat} (mem : d ∈ e.dictionaries) (unbounded : d.isUnbounded = true) :
    p.IsUnbounded := by
  obtain ⟨s, rfl⟩ := exists_ofSplit run exact mem
  exact Problem.isUnbounded_iff.2 (Dictionary.exists_isUnbounded_iff.1 ⟨s, unbounded⟩)

end Exact

/-! ### What an exact run over all partitions finds -/

section Exhaustive

variable (run : enumerate? p c probe progress = .ok e) (exhaustive : c.IsExhaustive) (uncancelled : e.cancelled = false)

include run exhaustive uncancelled

theorem dictionaries_eq : e.dictionaries = (Partition.all p.numVars p.numConstraints).map fun partition =>
    Dictionary.build p.program partition.basic partition.nonBasic 0 0 := by
  rw [dictionaries_of_run run uncancelled, Config.toList_run exhaustive.shard exhaustive.limit]
  apply List.map_congr_left
  intro partition _
  rw [Config.evaluate, exhaustive.tolerance, exhaustive.pivotTolerance]
  rfl

theorem mem_dictionaries_iff {d : Dictionary Rat} :
    d ∈ e.dictionaries ↔ ∃ s : Split p.numConstraints p.numVars, Dictionary.ofSplit p.program s = d := by
  rw [dictionaries_eq run exhaustive uncancelled, List.mem_map]
  refine ⟨?_, ?_⟩
  · intro h
    obtain ⟨partition, mem, rfl⟩ := h
    obtain ⟨s, rfl⟩ := Split.mem_all.1 mem
    exact ⟨s, rfl⟩
  · intro h
    obtain ⟨s, rfl⟩ := h
    exact ⟨s.partition, Split.mem_all.2 ⟨s, rfl⟩, rfl⟩

theorem exists_mem_dictionaries_iff {q : Dictionary Rat → Prop} :
    (∃ d ∈ e.dictionaries, q d) ↔ ∃ s : Split p.numConstraints p.numVars, q (Dictionary.ofSplit p.program s) := by
  simp only [mem_dictionaries_iff run exhaustive uncancelled, exists_exists_eq_and]

theorem exists_isFeasible_iff_nonempty : (∃ d ∈ e.dictionaries, d.isFeasible = true) ↔ p.region.Nonempty := by
  rw [exists_mem_dictionaries_iff run exhaustive uncancelled, Dictionary.exists_isFeasible_iff]
  rfl

theorem exists_isOptimal_iff_exists : (∃ d ∈ e.dictionaries, d.isOptimal = true) ↔ ∃ x, p.IsOptimal x := by
  rw [exists_mem_dictionaries_iff run exhaustive uncancelled, Dictionary.exists_isOptimal_iff]
  exact exists_congr fun x => Problem.isOptimal_iff.symm

theorem isUnbounded_iff_isUnbounded : e.isUnbounded = true ↔ p.IsUnbounded := by
  rw [isUnbounded, List.any_eq_true, exists_mem_dictionaries_iff run exhaustive uncancelled,
    Dictionary.exists_isUnbounded_iff]
  exact Problem.isUnbounded_iff.symm

end Exhaustive

theorem isUnbounded_eq_false (missing : ¬∃ d ∈ e.dictionaries, d.isUnbounded = true) : e.isUnbounded = false := by
  rw [← Bool.not_eq_true, isUnbounded, List.any_eq_true]
  exact missing

theorem optimalValue?_eq_none (missing : ¬∃ d ∈ e.dictionaries, d.isOptimal = true) : e.optimalValue? = none := by
  have first : e.optimal? = none := List.find?_eq_none.2 fun d mem optimal => missing ⟨d, mem, optimal⟩
  rw [optimalValue?, first, Option.bind_none]

/-- For every problem in either sense, an exact run over all partitions that is not cancelled, whatever the workers do,
finds a feasible dictionary exactly if the region has a point, an optimal one exactly if the objective has an optimum,
which it then states with a point that attains it, and an unbounded one exactly if the objective has no bound. So a run
ends in exactly one of three ways. -/
theorem run_decides (p : Problem Rat) (c : Config Rat) (probe : Probe) (progress : Progress) (e : Enumeration Rat)
    (run : enumerate? p c probe progress = .ok e) (exhaustive : c.IsExhaustive) (uncancelled : e.cancelled = false) :
    ((∃ d ∈ e.dictionaries, d.isFeasible = true) ↔ p.region.Nonempty) ∧
    ((∃ d ∈ e.dictionaries, d.isOptimal = true) ↔ ∃ x, p.IsOptimal x) ∧
    ((∃ x, p.IsOptimal x) →
      ∃ x, p.IsOptimal x ∧ e.optimalPoint? = some (List.ofFn x) ∧ e.optimalValue? = some (p.value x)) ∧
    (e.isUnbounded = true ↔ p.region.Nonempty ∧ p.IsUnbounded) ∧
    ((∀ d ∈ e.dictionaries, d.isFeasible = false) ∧ e.optimalValue? = none ∧ e.isUnbounded = false ∨
      (∃ d ∈ e.dictionaries, d.isFeasible = true) ∧ (∃ v, e.optimalValue? = some v) ∧ e.isUnbounded = false ∨
      (∃ d ∈ e.dictionaries, d.isFeasible = true) ∧ e.optimalValue? = none ∧ e.isUnbounded = true) := by
  have feasible := exists_isFeasible_iff_nonempty run exhaustive uncancelled
  have optimal := exists_isOptimal_iff_exists run exhaustive uncancelled
  have unbounded := isUnbounded_iff_isUnbounded run exhaustive uncancelled
  have optimum : (∃ x, p.IsOptimal x) →
      ∃ x, p.IsOptimal x ∧ e.optimalPoint? = some (List.ofFn x) ∧ e.optimalValue? = some (p.value x) := by
    intro attained
    obtain ⟨d, first⟩ := Option.isSome_iff_exists.1 (List.find?_isSome.2 (optimal.2 attained))
    exact exists_isOptimal_of_optimal? run exhaustive.isExact first
  refine ⟨feasible, optimal, optimum, ?_, ?_⟩
  · rw [unbounded]
    refine ⟨fun h => ⟨?_, h⟩, fun h => h.2⟩
    obtain ⟨x, mem, _⟩ := h 0
    exact ⟨x, mem⟩
  · by_cases nonempty : ∃ d ∈ e.dictionaries, d.isFeasible = true
    · by_cases attained : ∃ x, p.IsOptimal x
      · obtain ⟨x, greatest, _, value⟩ := optimum attained
        refine .inr (.inl ⟨nonempty, ⟨_, value⟩, ?_⟩)
        rw [← Bool.not_eq_true, unbounded]
        exact greatest.not_isUnbounded
      · have passes := (Problem.isOptimal_or_isUnbounded (feasible.1 nonempty)).resolve_left attained
        exact .inr (.inr ⟨nonempty, optimalValue?_eq_none (optimal.not.2 attained), unbounded.2 passes⟩)
    · refine .inl ⟨?_, optimalValue?_eq_none ?_, isUnbounded_eq_false ?_⟩
      · intro d mem
        rw [← Bool.not_eq_true]
        intro h
        exact nonempty ⟨d, mem, h⟩
      · intro found
        obtain ⟨d, mem, h⟩ := found
        exact nonempty ⟨d, mem, Dictionary.isFeasible_of_isOptimal h⟩
      · intro found
        obtain ⟨d, mem, h⟩ := found
        exact nonempty ⟨d, mem, Dictionary.isFeasible_of_isUnbounded h⟩

theorem run_of_ramp_decides : ∃ e,
    enumerate? .ramp (.exact 2 Nat.two_pos) (fun _ => false) (fun _ _ => false) = .ok e ∧
      (Config.exact 2 Nat.two_pos).IsExhaustive ∧ e.cancelled = false ∧
      ∃ x, Problem.ramp.IsOptimal x ∧ e.optimalPoint? = some (List.ofFn x) ∧
        e.optimalValue? = some (Problem.ramp.value x) := by
  have run : enumerate? .ramp (.exact 2 Nat.two_pos) (fun _ => false) (fun _ _ => false) =
      .ok (enumerate .ramp (.exact 2 Nat.two_pos) (fun _ => false) fun _ _ => false) := rfl
  have exhaustive := Config.isExhaustive_exact Nat.two_pos
  have uncancelled := cancelled_of_run run fun _ => rfl
  obtain ⟨_, optimal, optimum, _⟩ := run_decides _ _ _ _ _ run exhaustive uncancelled
  refine ⟨_, run, exhaustive, uncancelled, optimum (optimal.1 (List.any_eq_true.1 ?_))⟩
  decide +kernel

end Enumeration

end Polyhedra
