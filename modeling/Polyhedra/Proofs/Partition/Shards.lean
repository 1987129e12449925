import Mathlib
import Polyhedra.Partition.Run
import Polyhedra.Proofs.Partition.Ranking

/-!
# Shards of the partitions

A shard starts at the partition that has its first position as rank and steps to the next one until it has as many as its
bounds say. Since ranks and successors follow the same order this is a slice of all partitions, and since the bounds of
one shard end where those of the next one start the slices fit together.
-/

namespace Polyhedra

namespace Shard

/-! ### Bounds -/

/-- The position at which the shard with some index starts. -/
def cut (total count index : Nat) : Nat :=
  index * total / count

theorem bounds_natCast (s : Shard) (total : Nat) :
    s.bounds total = ((cut total s.count s.index : Int), (cut total s.count (s.index + 1) : Int)) := by
  simp [bounds, cut]

variable {total count index : Nat}

theorem cut_zero : cut total count 0 = 0 := by
  rw [cut, Nat.zero_mul, Nat.zero_div]

theorem cut_self (positive : 0 < count) : cut total count count = total :=
  Nat.mul_div_cancel_left total positive

theorem monotone_cut (total count : Nat) : Monotone (cut total count) := by
  intro i j hij
  exact Nat.div_le_div_right (Nat.mul_le_mul_right total hij)

theorem cut_le (total : Nat) (h : index ≤ count) : cut total count index ≤ total := by
  rcases Nat.eq_zero_or_pos count with zero | positive
  · rw [cut, zero, Nat.div_zero]
    exact Nat.zero_le total
  · exact (monotone_cut total count h).trans_eq (cut_self positive)

/-- The sizes of the shards differ by at most one. -/
theorem cut_succ_sub_cut (positive : 0 < count) :
    cut total count (index + 1) - cut total count index = total / count ∨
      cut total count (index + 1) - cut total count index = total ⌈/⌉ count := by
  have step : cut total count (index + 1) = cut total count index + total / count +
      if count ≤ index * total % count + total % count then 1 else 0 := by
    rw [cut, cut, Nat.succ_mul, Nat.add_div positive]
  split_ifs at step with carry
  · -- A carry needs a remainder, and then the quotient is rounded up.
    right
    have rest : 0 < total % count := by
      have := Nat.mod_lt (index * total) positive
      omega
    have up : total ⌈/⌉ count = total / count + 1 := by
      have quotient := Nat.div_add_mod total count
      have small := Nat.mod_lt total positive
      rw [Nat.ceilDiv_eq_add_pred_div]
      apply Nat.div_eq_of_lt_le
      · rw [Nat.succ_mul, Nat.mul_comm]
        omega
      · rw [Nat.succ_mul, Nat.succ_mul, Nat.mul_comm]
        omega
    omega
  · left
    rw [step, Nat.add_zero, Nat.add_sub_cancel_left]

/-- Slices that follow each other give the list up to the end of the last one. -/
theorem flatMap_extract {α : Type} (l : List α) {b : Nat → Nat} (mono : Monotone b) (zero : b 0 = 0) (k : Nat) :
    ((List.range k).flatMap fun i => l.extract (b i) (b (i + 1))) = l.take (b k) := by
  induction k with
  | zero => simp [zero]
  | succ k ih =>
    have next : b (k + 1) = b k + (b (k + 1) - b k) := (Nat.add_sub_cancel' (mono (Nat.le_succ k))).symm
    rw [List.range_succ, List.flatMap_append, ih, List.flatMap_singleton, List.extract_eq_take_drop]
    conv_rhs => rw [next, List.take_add]

/-! ### Partitions of a shard -/

variable {n m : Nat}

theorem map_ofBasic_basics (n m : Nat) :
    (Partition.basics n m).map (Partition.ofBasic (n + m)) = Partition.all n m := by
  rw [Partition.basics_eq, Partition.all]

/-- From the partition of a rank on, the walk goes through the partitions in order. -/
theorem walkFrom_getElem {r : Nat} (h : r < (Partition.all n m).length) (limit : Nat) :
    Partition.walkFrom n m limit (Partition.all n m)[r].basic = ((Partition.all n m).drop r).take limit := by
  have below := Partition.lt_length_basics h
  rw [Partition.walkFrom, ← Partition.getElem_basics h below, ((Partition.isWalk_basics n m).drop below).walk_eq_take,
    List.map_take, List.map_drop, map_ofBasic_basics]

/-- The partitions of a shard are a slice of all partitions, cut off at the limit. -/
theorem partitions_eq (s : Shard) (n m limit : Nat) :
    s.partitions n m limit = ((Partition.all n m).extract (cut (Partition.count n m) s.count s.index)
      (cut (Partition.count n m) s.count (s.index + 1))).take limit := by
  rw [partitions, bounds_natCast, List.extract_eq_take_drop, List.take_take]
  dsimp only
  split
  · rename_i empty
    rw [Nat.sub_eq_zero_of_le (Int.ofNat_le.1 empty), Nat.min_zero, List.take_zero]
  · rename_i nonempty
    have stop := cut_le (Partition.count n m) (show s.index + 1 ≤ s.count from s.index_lt)
    have inside : cut (Partition.count n m) s.count s.index < (Partition.all n m).length := by
      rw [Partition.length_all]
      omega
    rw [Partition.atRank?_of_lt inside]
    dsimp only
    rw [walkFrom_getElem inside, ← Nat.cast_sub (by omega), Int.toNat_natCast]

theorem toList_ofShard (s : Shard) (n m limit : Nat) :
    (PartitionRun.ofShard s n m limit).toList = s.partitions n m limit := by
  rw [PartitionRun.ofShard, partitions]
  dsimp only
  split
  · rfl
  · cases Partition.atRank? (s.bounds (Partition.count n m)).1 n m <;> rfl

theorem length_partitions (s : Shard) (n m : Nat) :
    (s.partitions n m (Partition.count n m)).length =
      cut (Partition.count n m) s.count (s.index + 1) - cut (Partition.count n m) s.count s.index := by
  have stop := cut_le (Partition.count n m) (show s.index + 1 ≤ s.count from s.index_lt)
  rw [partitions_eq, List.length_take, List.extract_eq_take_drop, List.length_take, List.length_drop,
    Partition.length_all]
  omega

/-- Without a limit a shard has all the partitions of its slice. -/
theorem partitions_count (s : Shard) (n m : Nat) :
    s.partitions n m (Partition.count n m) = (Partition.all n m).extract
      (cut (Partition.count n m) s.count s.index) (cut (Partition.count n m) s.count (s.index + 1)) := by
  rw [partitions_eq]
  apply List.take_of_length_le
  rw [List.extract_eq_take_drop, List.length_take, List.length_drop, Partition.length_all]
  omega

/-- Within a shard every step of the walk finds a successor. -/
theorem isChain_basic_partitions (s : Shard) (n m limit : Nat) :
    ((s.partitions n m limit).map Partition.basic).IsChain
      fun u v => successor? ((n + m : Nat) : Int) u = some v := by
  rw [partitions_eq, List.extract_eq_take_drop, List.map_take, List.map_take, List.map_drop]
  exact (((Partition.isWalk_basics n m).chain.drop _).take _).take _

def nth {count : Nat} (i : Fin count) : Shard := ⟨i, count, i.isLt⟩

theorem flatMap_partitions {count : Nat} (positive : 0 < count) (n m : Nat) :
    ((List.finRange count).flatMap fun i => (nth i).partitions n m (Partition.count n m)) = Partition.all n m := by
  simp only [partitions_count]
  have slices := flatMap_extract (Partition.all n m) (monotone_cut (Partition.count n m) count) cut_zero count
  rw [cut_self positive, List.take_of_length_le (Partition.length_all n m).le, ← List.map_coe_finRange_eq_range,
    List.flatMap_map] at slices
  exact slices

end Shard

end Polyhedra
