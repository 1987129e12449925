import Polyhedra.Partition.Basic

/-!
# Shards

The partitions in order are cut into contiguous shards whose sizes differ by at most one, so that
separate runs can share the work.
-/

namespace Polyhedra

/-- One of `count` shards. -/
structure Shard where
  index : Nat
  count : Nat
  index_lt : index < count
  deriving DecidableEq, Repr

namespace Shard

/-- The shard with an index among a number of them. -/
def make? (index count : Int) : Except RequestFault Shard :=
  if count < 1 then .error (.shardCount count)
  else if h : 0 ≤ index ∧ index < count then
    .ok ⟨index.toNat, count.toNat, by omega⟩
  else .error (.shardIndex index count)

/-- First position of the shard and first position after it, among `total` positions. -/
def bounds (s : Shard) (total : Int) : Int × Int :=
  ((s.index : Int) * total / (s.count : Int), ((s.index : Int) + 1) * total / (s.count : Int))

/-- The partitions of a shard, at most `limit` of them: its first one is found by rank, and the others
follow in order. -/
def partitions (s : Shard) (n m limit : Nat) : List Partition :=
  let (start, stop) := s.bounds (Partition.count n m)
  if stop ≤ start then []
  else match Partition.atRank? start n m with
    | .ok p => Partition.walkFrom n m (min limit (stop - start).toNat) p.basic
    | .error _ => []

end Shard

end Polyhedra
