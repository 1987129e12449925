import Mathlib
import Polyhedra.Proofs.Enumeration.Optimum
import Polyhedra.Proofs.Partition.Shards

/-!
# Accounting for the partitions of a run

How many partitions are planned is computed from a binomial coefficient, the bounds of a shard and the limit, while the
partitions themselves come from a walk that starts at the first one of the shard. Both are read here as the same slice
of all partitions. A run that is started then has a prefix of the planned dictionaries, and all of them unless it was
cancelled: the probe is asked only while something is left, so a cancelled run has always missed something.

A limit beyond what can be counted off is accepted and enters the planned number like any other, but no such run starts.
-/

namespace Polyhedra

variable {α : Type}

@[simp] theorem Partition.checkCounts_natCast (n m : Nat) : checkCounts n m = .ok (n, m) := by
  simp [checkCounts]

namespace Config

/-- All the partitions that a configuration covers when it has no limit. -/
def share (c : Config α) (n m : Nat) : List Partition :=
  match c.shard with
  | none => Partition.all n m
  | some s => s.partitions n m (Partition.count n m)

theorem length_share (c : Config α) (n m : Nat) :
    (c.share n m).length = match c.shard with
      | none => Partition.count n m
      | some s => ((s.bounds (Partition.count n m)).2 - (s.bounds (Partition.count n m)).1).toNat := by
  rw [share]
  cases c.shard with
  | none => exact Partition.length_all n m
  | some s =>
    simp only [s.length_partitions, s.bounds_natCast]
    omega

/-- The walk of a run goes through the share of its configuration and stops at the limit. -/
theorem toList_run_eq_take (c : Config α) (n m : Nat) :
    (c.run n m).toList = (c.share n m).take (c.limit.getD (Partition.count n m)) := by
  rw [run, share]
  cases c.shard with
  | none => exact PartitionRun.toList_initial n m _
  | some s => simp only [s.toList_ofShard, s.partitions_count, s.partitions_eq]

/-- What is planned by arithmetic is as much as the walk will hand out. -/
theorem planned_eq_length (c : Config α) (n m : Nat) : c.planned n m = (c.run n m).toList.length := by
  have most : (c.share n m).length ≤ Partition.count n m := by
    rw [share]
    cases c.shard with
    | none => exact (Partition.length_all n m).le
    | some s =>
      have stop := Shard.cut_le (Partition.count n m) (show s.index + 1 ≤ s.count from s.index_lt)
      simp only [s.length_partitions]
      omega
  have share := c.length_share n m
  rw [toList_run_eq_take, List.length_take, planned]
  cases shard : c.shard <;> cases c.limit <;> simp only [shard, Option.getD_none, Option.getD_some] at share ⊢ <;>
    omega

/-- The partitions that are handed out on request are those of the run. -/
theorem eq_toList_run_of_partitions? {c : Config α} {n m : Nat} {partitions : List Partition}
    (listed : c.partitions? n m = .ok partitions) : partitions = (c.run n m).toList := by
  rw [partitions?] at listed
  split_ifs at listed with vast empty whole
  · cases listed
    rw [toList_run_eq_take, empty, Option.getD_some, List.take_zero]
  · simp only [Partition.listable?, Partition.checkCounts_natCast] at listed
    cases excess : excess? (n + m) with
    | none =>
      rw [excess] at listed
      exact (Except.ok.inj listed).symm
    | some cause =>
      rw [excess] at listed
      cases listed
  · simp only [Partition.countable?, Partition.checkCounts_natCast] at listed
    split_ifs at listed
    · cases listed
    · exact (Except.ok.inj listed).symm

/-- A run can be started if its limit can be counted up to, and for a pool also its workers and its chunks. -/
theorem obstacle?_eq_none_iff {c : Config α} : c.obstacle? = none ↔
    (∀ limit ∈ c.limit, limit ≤ countingLimit) ∧
      (1 < c.workers → c.workers ≤ workerLimit ∧ c.chunkSize ≤ countingLimit) := by
  have countable : c.hasCountableLimit = true ↔ ∀ limit ∈ c.limit, limit ≤ countingLimit := by
    rw [hasCountableLimit]
    cases c.limit <;> simp
  rw [obstacle?, ← countable]
  split_ifs <;> grind

end Config

namespace EndsAs

variable {β : Type} {probe : Probe} {size : Nat} {all : List β} {e : Evaluated β}

theorem results_prefix (h : EndsAs probe size all e) : e.results <+: all := by
  cases h with
  | complete => exact List.prefix_refl all
  | cut j => exact List.take_prefix _ all

theorem length_lt_of_cancelled (h : EndsAs probe size all e) (cancelled : e.cancelled = true) :
    e.results.length < all.length := by
  cases h with
  | complete => cases cancelled
  | cut j yes quiet early =>
    rw [List.length_take]
    omega

theorem length_eq_iff (h : EndsAs probe size all e) : e.results.length = all.length ↔ e.cancelled = false := by
  constructor
  · intro whole
    by_contra cancelled
    have := h.length_lt_of_cancelled (Bool.eq_true_of_not_eq_false cancelled)
    omega
  · intro uncancelled
    rw [h.results_of_not_cancelled uncancelled]

theorem cancelled_of_yes (h : EndsAs probe size all e) {k : Nat} (yes : probe k = true) (left : k * size < all.length) :
    e.cancelled = true := by
  cases h with
  | complete quiet => simp [quiet k left] at yes
  | cut => rfl

end EndsAs

namespace Enumeration

/-- The planned number is that of the partitions which are handed out. A run that starts evaluates the first of them, in
order; it evaluates all of them exactly if it is not cancelled. -/
theorem run_accounts [Scalar α] (c : Config α) (free : c.obstacle? = none) :
    (∀ n m : Nat, c.planned n m = (c.run n m).toList.length ∧
      ∀ partitions, c.partitions? n m = .ok partitions → partitions = (c.run n m).toList) ∧
    ∀ (p : Problem α) (probe : Probe) (progress : Progress), ∃ e, enumerate? p c probe progress = .ok e ∧
      e.planned = c.planned p.numVars p.numConstraints ∧
      e.dictionaries <+: (c.run p.numVars p.numConstraints).toList.map (c.evaluate p) ∧
      (e.dictionaries.length = e.planned ↔ e.cancelled = false) ∧
      (e.cancelled = true → e.dictionaries.length < e.planned) := by
  refine ⟨fun n m => ⟨c.planned_eq_length n m, fun _ => Config.eq_toList_run_of_partitions?⟩, ?_⟩
  intro p probe progress
  have ends := enumerate_endsAs p c probe progress
  have planned : (enumerate p c probe progress).planned =
      ((c.run p.numVars p.numConstraints).toList.map (c.evaluate p)).length := by
    rw [List.length_map]
    exact c.planned_eq_length _ _
  refine ⟨enumerate p c probe progress, enumerate?_of_free free, rfl, ends.results_prefix, ?_, ?_⟩
  · rw [planned]
    exact ends.length_eq_iff
  · rw [planned]
    exact ends.length_lt_of_cancelled

def upperHalf : Config Rat :=
  { Config.exact 2 Nat.two_pos with shard := some ⟨1, 2, by decide⟩, limit := some 5 }

theorem run_of_upperHalf_accounts :
    upperHalf.obstacle? = none ∧ ∃ e, enumerate? .ramp upperHalf (fun k => k == 0) (fun _ _ => true) = .ok e ∧
      e.planned = 1 ∧ e.cancelled = true ∧ e.dictionaries.length < e.planned := by
  obtain ⟨e, run, planned, _, _, early⟩ := (run_accounts upperHalf rfl).2 .ramp (fun k => k == 0) fun _ _ => true
  have cancelled : e.cancelled = true := by
    obtain rfl := eq_enumerate_of_run run
    have left : 0 * 1 < ((upperHalf.run 1 1).toList.map (upperHalf.evaluate .ramp)).length := by
      rw [List.length_map]
      decide
    have ends := enumerate_endsAs .ramp upperHalf (fun k => k == 0) fun _ _ => true
    exact ends.cancelled_of_yes rfl left
  exact ⟨rfl, e, run, planned.trans (by decide), cancelled, early cancelled⟩

/-- A request for one worker with a limit that is one more than what can be counted off. -/
def vast [Zero α] : ConfigRequest α :=
  { limit := some 9223372036854775808, tolerance := 0, pivotTolerance := 0 }

/-- Accepted and planned, but no partition is handed out and no run is started. -/
theorem run_of_vast_limit_is_refused :
    ∃ c, (vast : ConfigRequest Rat).config? = .ok c ∧ c.planned 1 1 = 2 ∧ (c.run 1 1).toList.length = 2 ∧
      c.partitions? 1 1 = .error (.uncountableLimit 9223372036854775808) ∧
      ∀ probe progress, enumerate? .ramp c probe progress = .error .uncountable := by
  refine ⟨_, rfl, by decide, by decide, rfl, fun probe progress => rfl⟩

end Enumeration

end Polyhedra
