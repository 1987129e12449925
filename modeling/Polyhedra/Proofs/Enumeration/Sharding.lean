import Mathlib
import Polyhedra.Proofs.Enumeration.Optimum
import Polyhedra.Proofs.Listing.Summary
import Polyhedra.Proofs.Partition.Shards

/-!
# Runs over shards

The shards of a run share its work: their partitions, taken in the order of the shards, are all partitions. So the
dictionaries of their runs are together those of the whole run, and the counts of their summaries add up to its counts.
-/

namespace Polyhedra

variable {α : Type}

/-- A configuration covers one shard of the partitions, without a limit, with the tolerances of another. -/
structure Config.IsPart (c whole : Config α) (s : Shard) : Prop where
  shard : c.shard = some s
  limit : c.limit = none
  tolerance : c.tolerance = whole.tolerance
  pivotTolerance : c.pivotTolerance = whole.pivotTolerance

theorem Config.IsPart.toList_run {c whole : Config α} {s : Shard} (h : c.IsPart whole s) (n m : Nat) :
    (c.run n m).toList = s.partitions n m (Partition.count n m) := by
  rw [Config.run, h.shard, h.limit]
  exact s.toList_ofShard n m _

variable [Scalar α] {p : Problem α} {c whole : Config α} {e : Enumeration α}

def Config.Completes (c : Config α) (p : Problem α) (e : Enumeration α) : Prop :=
  ∃ probe progress, enumerate? p c probe progress = .ok e ∧ e.cancelled = false

theorem Config.Completes.dictionaries_eq (h : c.Completes p e) :
    e.dictionaries = (c.run p.numVars p.numConstraints).toList.map (c.evaluate p) := by
  obtain ⟨probe, progress, run, uncancelled⟩ := h
  exact dictionaries_of_run run uncancelled

/-- A run is completed if nothing keeps it from being started and the probe never says yes. -/
theorem Config.completes (p : Problem α) (free : c.obstacle? = none) :
    c.Completes p (enumerate p c (fun _ => false) fun _ _ => false) := by
  have run : enumerate? p c (fun _ => false) (fun _ _ => false) =
      .ok (enumerate p c (fun _ => false) fun _ _ => false) :=
    enumerate?_of_free free
  exact ⟨_, _, run, cancelled_of_run run fun _ => rfl⟩

namespace Enumeration

variable {count : Nat} {parts : Fin count → Config α} {es : Fin count → Enumeration α}

/-- The dictionaries of complete runs over all shards are those of a complete run over all partitions, in order. -/
theorem flatMap_dictionaries (positive : 0 < count) (shard : whole.shard = none) (limit : whole.limit = none)
    (isPart : ∀ i, (parts i).IsPart whole (.nth i)) (run : whole.Completes p e)
    (runs : ∀ i, (parts i).Completes p (es i)) :
    ((List.finRange count).flatMap fun i => (es i).dictionaries) = e.dictionaries := by
  rw [run.dictionaries_eq, Config.toList_run shard limit, ← Shard.flatMap_partitions positive, List.map_flatMap]
  congr 1
  funext i
  rw [(runs i).dictionaries_eq, (isPart i).toList_run,
    Config.evaluate_congr (isPart i).tolerance (isPart i).pivotTolerance]

/-- The shards are slices of the partitions in order, of sizes that differ by at most one, and together they are all
partitions. Within each the walk never stops early. So complete runs over the shards have together the dictionaries of a
complete run, and their counts add up. -/
theorem shards_cover_runs [Numeral α] (n m count : Nat) (positive : 0 < count) :
    ((List.finRange count).flatMap fun i => (Shard.nth i).partitions n m (Partition.count n m)) = Partition.all n m ∧
    (∀ i : Fin count,
      let bounds := (Shard.nth i).bounds ((n + m).choose m)
      let part := (Shard.nth i).partitions n m (Partition.count n m)
      part = (Partition.all n m).extract bounds.1.toNat bounds.2.toNat ∧ (part.length : Int) = bounds.2 - bounds.1 ∧
        (part.length = (n + m).choose m / count ∨ part.length = (n + m).choose m ⌈/⌉ count) ∧
        (part.map Partition.basic).IsChain fun s t => successor? ((n + m : Nat) : Int) s = some t) ∧
    ∀ (p : Problem α) (whole : Config α) (parts : Fin count → Config α) (e : Enumeration α)
      (es : Fin count → Enumeration α), p.numVars = n → p.numConstraints = m →
      whole.shard = none → whole.limit = none → (∀ i, (parts i).IsPart whole (.nth i)) →
      whole.Completes p e → (∀ i, (parts i).Completes p (es i)) →
      ((List.finRange count).flatMap fun i => (es i).dictionaries) = e.dictionaries ∧
        e.summary.IsSum fun i => (es i).summary := by
  refine ⟨Shard.flatMap_partitions positive n m, fun i => ?_, ?_⟩
  · intro bounds part
    have size := (Shard.nth i).length_partitions n m
    have order := Shard.monotone_cut (Partition.count n m) count (Nat.le_succ i)
    simp only [bounds, part, ← Partition.count_eq_choose, Shard.bounds_natCast, Int.toNat_natCast]
    refine ⟨(Shard.nth i).partitions_count n m, ?_, ?_, (Shard.nth i).isChain_basic_partitions n m _⟩
    · rw [size]
      exact Nat.cast_sub order
    · rw [size]
      exact Shard.cut_succ_sub_cut positive
  · intro p whole parts e es _ _ shard limit isPart run runs
    have together := flatMap_dictionaries positive shard limit isPart run runs
    refine ⟨together, ?_⟩
    rw [summary, entries, ← together, List.map_flatMap]
    exact Listing.summary_flatMap fun i => (es i).entries

def third (i : Fin 3) : Config Rat :=
  { Config.exact (i + 1) (Nat.succ_pos i) with shard := some (.nth i) }

theorem shards_of_ramp_cover :
    0 < 3 ∧ (∀ i, (third i).IsPart (.exact 1 Nat.one_pos) (.nth i)) ∧
      ∃ (e : Enumeration Rat) (es : Fin 3 → Enumeration Rat),
        (Config.exact 1 Nat.one_pos).Completes .ramp e ∧ (∀ i, (third i).Completes .ramp (es i)) ∧
        ((List.finRange 3).flatMap fun i => (es i).dictionaries) = e.dictionaries ∧
        e.summary.IsSum fun i => (es i).summary := by
  have isPart (i : Fin 3) : (third i).IsPart (.exact 1 Nat.one_pos) (.nth i) := ⟨rfl, rfl, rfl, rfl⟩
  have run := Config.completes (c := .exact 1 Nat.one_pos) Problem.ramp rfl
  have runs (i : Fin 3) := Config.completes (c := third i) Problem.ramp (by fin_cases i <;> rfl)
  have together := (shards_cover_runs 1 1 3 (by decide)).2.2 Problem.ramp (.exact 1 Nat.one_pos) third _ _
    rfl rfl rfl rfl isPart run runs
  exact ⟨by decide, isPart, _, _, run, runs, together⟩

end Enumeration

end Polyhedra
