import Mathlib
import Polyhedra.Enumeration.Basic
import Polyhedra.Proofs.Partition.Shards

/-!
# What a run evaluates

A run evaluates its partitions in order, up to the first question that the probe answers with yes, whether a single
worker takes them one at a time or a pool takes them in chunks. For the pool this holds however the workers progress,
since the jobs in flight keep their order: after a number of chunks, what was collected and what is in flight are
together the results of these chunks, and the run holds the others.
-/

namespace Polyhedra

namespace PartitionRun

theorem next?_eq_none_iff {r : PartitionRun} : r.next? = none ↔ r.remaining = 0 := by
  rw [next?]
  split
  · exact iff_of_true rfl ‹_›
  · rename_i remaining left
    exact iff_of_false (Option.some_ne_none _) (by omega)

theorem remaining_lt_of_next? {r rest : PartitionRun} {p : Partition} (h : r.next? = some (p, rest)) :
    rest.remaining < r.remaining := by
  rw [next?] at h
  split at h
  · cases h
  · rename_i remaining left
    obtain ⟨_, rfl⟩ := Prod.mk.inj (Option.some.inj h)
    split
    · exact left ▸ Nat.lt_succ_self remaining
    · exact left ▸ Nat.succ_pos remaining

theorem toList_eq_nil_iff {r : PartitionRun} : r.toList = [] ↔ r.remaining = 0 := by
  rw [toList_eq_next?, ← next?_eq_none_iff]
  cases r.next? <;> simp

theorem remaining_chunk_le (size : Nat) (r : PartitionRun) : (chunk size r).2.remaining ≤ r.remaining := by
  induction size generalizing r with
  | zero => exact Nat.le_refl _
  | succ size ih =>
    rw [chunk]
    cases h : r.next? with
    | none => exact Nat.le_refl _
    | some entry => exact (ih entry.2).trans (remaining_lt_of_next? h).le

theorem chunk_cases {size : Nat} (positive : 0 < size) (r : PartitionRun) :
    (chunk size r).1 = [] ∧ r.remaining = 0 ∨
      (chunk size r).1 ≠ [] ∧ (chunk size r).2.remaining < r.remaining := by
  obtain ⟨size, rfl⟩ := Nat.exists_eq_succ_of_ne_zero positive.ne'
  rw [Nat.succ_eq_add_one, chunk]
  cases h : r.next? with
  | none => exact .inl ⟨rfl, next?_eq_none_iff.1 h⟩
  | some entry => exact .inr ⟨List.cons_ne_nil _ _, (remaining_chunk_le size entry.2).trans_lt (remaining_lt_of_next? h)⟩

theorem toList_initial (n m limit : Nat) : (initial n m limit).toList = (Partition.all n m).take limit := by
  rw [toList, initial, (Partition.isWalk_basics n m).walk_eq_take, List.map_take, Shard.map_ofBasic_basics,
    List.take_eq_take_iff, Partition.length_all, Nat.min_assoc, Nat.min_self]

end PartitionRun

variable {β : Type} {evaluate : Partition → β} {probe : Probe} {progress : Progress} {all : List β}

/-! ### Where the probe cuts a run -/

/-- The ends of a run that is to give certain results and asks the probe before every `size` of them. -/
inductive EndsAs (probe : Probe) (size : Nat) (all : List β) : Evaluated β → Prop where
  | complete (quiet : ∀ k, k * size < all.length → probe k = false) : EndsAs probe size all ⟨all, false⟩
  | cut (j : Nat) (yes : probe j = true) (quiet : ∀ k < j, probe k = false) (early : j * size < all.length) :
      EndsAs probe size all ⟨all.take (j * size), true⟩

namespace EndsAs

variable {size : Nat} {e : Evaluated β}

theorem results_of_not_cancelled (h : EndsAs probe size all e) (uncancelled : e.cancelled = false) : e.results = all := by
  cases h with
  | complete => rfl
  | cut => cases uncancelled

theorem results_subset (h : EndsAs probe size all e) : e.results ⊆ all := by
  cases h with
  | complete => exact List.Subset.refl all
  | cut j => exact List.take_subset _ all

theorem not_cancelled (h : EndsAs probe size all e) (quiet : ∀ k, probe k = false) : e.cancelled = false := by
  cases h with
  | complete => rfl
  | cut j yes => simp [quiet j] at yes

/-- A run with no partitions left has all results. -/
theorem of_drop_eq_nil {polls : Nat} (quiet : ∀ k < polls, probe k = false) (ended : all.drop (polls * size) = []) :
    EndsAs probe size all ⟨all.take (polls * size), false⟩ := by
  rw [List.drop_eq_nil_iff] at ended
  rw [List.take_of_length_le ended]
  exact .complete fun k hk => quiet k (Nat.lt_of_mul_lt_mul_right (hk.trans_le ended))

theorem of_yes {polls : Nat} (quiet : ∀ k < polls, probe k = false) (yes : probe polls = true)
    (left : all.drop (polls * size) ≠ []) : EndsAs probe size all ⟨all.take (polls * size), true⟩ := by
  rw [ne_eq, List.drop_eq_nil_iff, Nat.not_le] at left
  exact .cut polls yes quiet left

end EndsAs

theorem quiet_succ {polls : Nat} (quiet : ∀ k < polls, probe k = false) (no : probe polls = false) :
    ∀ k < polls + 1, probe k = false :=
  Nat.forall_lt_succ_right.2 ⟨quiet, no⟩

/-! ### A single worker -/

theorem evaluateFrom_endsAs {steps polls : Nat} {r : PartitionRun} {done : List β} (room : r.remaining ≤ steps)
    (quiet : ∀ k < polls, probe k = false) (past : done.reverse = all.take (polls * 1))
    (rest : r.toList.map evaluate = all.drop (polls * 1)) :
    EndsAs probe 1 all (evaluateFrom evaluate probe steps polls r done) := by
  induction steps generalizing polls r done with
  | zero =>
    rw [PartitionRun.toList_eq_nil_iff.2 (Nat.le_zero.1 room)] at rest
    rw [evaluateFrom, past]
    exact .of_drop_eq_nil quiet rest.symm
  | succ steps ih =>
    rw [PartitionRun.toList_eq_next?] at rest
    rw [evaluateFrom]
    cases h : r.next? with
    | none =>
      simp only [h] at rest ⊢
      rw [past]
      exact .of_drop_eq_nil quiet rest.symm
    | some entry =>
      obtain ⟨p, others⟩ := entry
      have fewer := PartitionRun.remaining_lt_of_next? h
      simp only [h, List.map_cons] at rest ⊢
      cases answer : probe polls with
      | true =>
        rw [if_pos rfl, past]
        exact .of_yes quiet answer (rest ▸ List.cons_ne_nil _ _)
      | false =>
        apply ih (by omega) (quiet_succ quiet answer)
        · rw [List.reverse_cons, past, Nat.succ_mul, List.take_add, ← rest]
          rfl
        · rw [Nat.succ_mul, ← List.drop_drop, ← rest]
          rfl

theorem evaluateSerial_endsAs (r : PartitionRun) :
    EndsAs probe 1 (r.toList.map evaluate) (evaluateSerial evaluate probe r) :=
  evaluateFrom_endsAs (Nat.le_refl _) (fun k hk => absurd hk (Nat.not_lt_zero k)) (by simp) (by simp)

/-! ### A pool of workers -/

@[simp] theorem Job.collect_finish (job : Job β) : (job.finish evaluate).collect evaluate = job.collect evaluate := by
  cases job with
  | pending chunk => rfl
  | finished results => rfl

namespace Pool

theorem drain_eq (p : Pool β) :
    p.drain evaluate = p.collected.reverse.flatten ++ p.inFlight.flatMap (Job.collect evaluate) := by
  obtain ⟨rest, inFlight, collected, polls⟩ := p
  simp only [drain]
  induction inFlight generalizing collected with
  | nil => simp
  | cons job others ih =>
    rw [List.foldl_cons, ih, List.reverse_cons, List.flatten_append, List.flatMap_cons, List.append_assoc]
    simp

/-- What the workers do in the meantime changes no result. -/
theorem drain_work (p : Pool β) : (p.work evaluate progress).drain evaluate = p.drain evaluate := by
  rw [drain_eq, drain_eq, work]
  congr 1
  rw [List.flatMap_def, List.flatMap_def]
  refine congrArg _ (List.ext_getElem (by simp) fun place _ _ => ?_)
  simp only [List.getElem_map, List.getElem_mapIdx]
  split
  · exact Job.collect_finish _
  · rfl

theorem drain_collectIfFull (window : Nat) (p : Pool β) :
    (p.collectIfFull evaluate window).drain evaluate = p.drain evaluate := by
  rw [collectIfFull]
  split
  · rfl
  · rename_i oldest others inFlight
    split
    · rw [drain_eq, drain_eq, inFlight, List.reverse_cons, List.flatten_append, List.flatMap_cons, List.append_assoc]
      simp
    · rfl

@[simp] theorem rest_collectIfFull (window : Nat) (p : Pool β) : (p.collectIfFull evaluate window).rest = p.rest := by
  rw [collectIfFull]
  split
  · rfl
  · split <;> rfl

@[simp] theorem polls_collectIfFull (window : Nat) (p : Pool β) : (p.collectIfFull evaluate window).polls = p.polls := by
  rw [collectIfFull]
  split
  · rfl
  · split <;> rfl

def handed (size : Nat) (p : Pool β) : Pool β :=
  { p with
    rest := (PartitionRun.chunk size p.rest).2
    inFlight := p.inFlight ++ [.pending (PartitionRun.chunk size p.rest).1]
    polls := p.polls + 1 }

theorem drain_handed (size : Nat) (p : Pool β) :
    (p.handed size).drain evaluate = p.drain evaluate ++ (PartitionRun.chunk size p.rest).1.map evaluate := by
  rw [drain_eq, drain_eq, handed, List.flatMap_append, ← List.append_assoc]
  simp [Job.collect]

theorem turn_eq {size : Nat} (positive : 0 < size) (window : Nat) (p : Pool β) :
    p.turn evaluate probe progress size window =
      if p.rest.remaining = 0 then .stop p false
      else if probe p.polls then .stop p true
      else .goOn (((p.handed size).work evaluate progress).collectIfFull evaluate window) := by
  rw [turn]
  rcases PartitionRun.chunk_cases positive p.rest with ⟨ended, empty⟩ | ⟨left, fewer⟩
  · rw [if_pos empty]
    split
    · rfl
    · rename_i taken
      rw [taken] at ended
      exact absurd ended (by assumption)
  · rw [if_neg (by omega)]
    split
    · rename_i taken
      rw [taken] at left
      exact absurd rfl left
    · rename_i taken
      rw [handed, taken]

/-- After a number of chunks the pool has their results, collected or in flight, and the run holds the others. -/
structure Keeps (evaluate : Partition → β) (probe : Probe) (size : Nat) (all : List β) (p : Pool β) : Prop where
  quiet : ∀ k < p.polls, probe k = false
  past : p.drain evaluate = all.take (p.polls * size)
  rest : p.rest.toList.map evaluate = all.drop (p.polls * size)

theorem Keeps.next {size : Nat} {p : Pool β} (h : Keeps evaluate probe size all p) (no : probe p.polls = false)
    (window : Nat) :
    Keeps evaluate probe size all (((p.handed size).work evaluate progress).collectIfFull evaluate window) := by
  obtain ⟨taken, left⟩ := PartitionRun.chunk_eq size p.rest
  refine ⟨?_, ?_, ?_⟩
  · rw [polls_collectIfFull]
    exact quiet_succ h.quiet no
  · rw [drain_collectIfFull, drain_work, drain_handed, polls_collectIfFull, h.past, taken, List.map_take, h.rest,
      ← List.take_add, ← Nat.succ_mul]
    rfl
  · rw [rest_collectIfFull, polls_collectIfFull]
    change (PartitionRun.chunk size p.rest).2.toList.map evaluate = all.drop ((p.polls + 1) * size)
    rw [left, List.map_drop, h.rest, List.drop_drop, Nat.succ_mul]

theorem runFrom_endsAs {size window steps : Nat} {p : Pool β} (positive : 0 < size) (room : p.rest.remaining < steps)
    (keeps : Keeps evaluate probe size all p) :
    EndsAs probe size all (runFrom evaluate probe progress size window steps p) := by
  induction steps generalizing p with
  | zero => exact absurd room (Nat.not_lt_zero _)
  | succ steps ih =>
    rw [runFrom, turn_eq positive]
    split_ifs with empty answer
    · show EndsAs probe size all ⟨p.drain evaluate, false⟩
      rw [keeps.past]
      apply EndsAs.of_drop_eq_nil keeps.quiet
      rw [← keeps.rest, PartitionRun.toList_eq_nil_iff.2 empty]
      rfl
    · show EndsAs probe size all ⟨p.drain evaluate, true⟩
      rw [keeps.past]
      apply EndsAs.of_yes keeps.quiet answer
      rw [← keeps.rest, ne_eq, List.map_eq_nil_iff, PartitionRun.toList_eq_nil_iff]
      exact empty
    · apply ih _ (keeps.next (Bool.eq_false_iff.2 answer) window)
      rw [rest_collectIfFull]
      have fewer := (PartitionRun.chunk_cases positive p.rest).resolve_left fun h => empty h.2
      exact fewer.2.trans_le (Nat.le_of_lt_succ room)

end Pool

theorem evaluatePool_endsAs {workers size : Nat} (positive : 0 < size) (r : PartitionRun) :
    EndsAs probe size (r.toList.map evaluate) (evaluatePool evaluate probe progress workers size r) :=
  Pool.runFrom_endsAs positive (Nat.lt_succ_self _)
    ⟨fun k hk => absurd hk (Nat.not_lt_zero k), by simp [Pool.drain_eq, Pool.start], by simp [Pool.start]⟩

/-! ### Enumerations -/

theorem Config.toList_run {α : Type} {c : Config α} {n m : Nat} (shard : c.shard = none) (limit : c.limit = none) :
    (c.run n m).toList = Partition.all n m := by
  rw [Config.run, shard, limit, Option.getD_none]
  exact (PartitionRun.toList_initial n m _).trans (List.take_of_length_le (Partition.length_all n m).le)

/-- Whatever a configuration leaves out, it has no other partitions than those there are. -/
theorem Config.run_subset {α : Type} (c : Config α) (n m : Nat) : (c.run n m).toList ⊆ Partition.all n m := by
  rw [Config.run]
  cases c.shard with
  | none =>
    rw [PartitionRun.toList_initial]
    exact List.take_subset _ _
  | some s =>
    rw [s.toList_ofShard, s.partitions_eq, List.extract_eq_take_drop]
    exact List.Subset.trans (List.take_subset _ _) (List.Subset.trans (List.take_subset _ _) (List.drop_subset _ _))

section Enumerate

variable {α : Type} [Scalar α] {p : Problem α} {c d : Config α} {e : Enumeration α}

theorem Config.evaluate_congr (tolerance : c.tolerance = d.tolerance) (pivot : c.pivotTolerance = d.pivotTolerance)
    (p : Problem α) : c.evaluate p = d.evaluate p := by
  funext partition
  rw [Config.evaluate, Config.evaluate, tolerance, pivot]

theorem enumerate?_of_free (free : c.obstacle? = none) :
    enumerate? p c probe progress = .ok (enumerate p c probe progress) := by
  rw [enumerate?, free]

theorem eq_enumerate_of_run (run : enumerate? p c probe progress = .ok e) : e = enumerate p c probe progress := by
  rw [enumerate?] at run
  split at run
  · cases run
  · exact (Except.ok.inj run).symm

/-- An enumeration asks the probe before each partition, or before each chunk if there are several workers. -/
theorem enumerate_endsAs (p : Problem α) (c : Config α) (probe : Probe) (progress : Progress) :
    EndsAs probe (if 1 < c.workers then c.chunkSize else 1)
      ((c.run p.numVars p.numConstraints).toList.map (c.evaluate p))
      ⟨(enumerate p c probe progress).dictionaries, (enumerate p c probe progress).cancelled⟩ := by
  rw [enumerate]
  split
  · exact evaluatePool_endsAs c.chunkSize_pos _
  · exact evaluateSerial_endsAs _

theorem cancelled_of_run (run : enumerate? p c probe progress = .ok e) (quiet : ∀ k, probe k = false) :
    e.cancelled = false := by
  obtain rfl := eq_enumerate_of_run run
  exact (enumerate_endsAs p c probe progress).not_cancelled quiet

/-- A run that is not stopped has the dictionary of every partition, in order. -/
theorem dictionaries_of_run (run : enumerate? p c probe progress = .ok e) (uncancelled : e.cancelled = false) :
    e.dictionaries = (c.run p.numVars p.numConstraints).toList.map (c.evaluate p) := by
  obtain rfl := eq_enumerate_of_run run
  exact (enumerate_endsAs p c probe progress).results_of_not_cancelled uncancelled

/-- Stopped or not, a run evaluates only partitions that there are. -/
theorem exists_of_mem_dictionaries (run : enumerate? p c probe progress = .ok e) {d : Dictionary α}
    (mem : d ∈ e.dictionaries) : ∃ partition ∈ Partition.all p.numVars p.numConstraints, c.evaluate p partition = d := by
  obtain rfl := eq_enumerate_of_run run
  have covered := (enumerate_endsAs p c probe progress).results_subset mem
  obtain ⟨partition, planned, same⟩ := List.mem_map.1 covered
  exact ⟨partition, c.run_subset _ _ planned, same⟩

end Enumerate

end Polyhedra
