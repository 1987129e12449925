import Polyhedra.Partition.Shard

/-!
# Runs of partitions

A stretch of the partitions in order, handed out one at a time or in chunks, so that no more of them are
made than are asked for.
-/

namespace Polyhedra

/-- The next `remaining` partitions of `count` indices, from a selection of basic indices on. -/
structure PartitionRun where
  count : Nat
  remaining : Nat
  basic : List Int
  deriving DecidableEq, Repr

namespace PartitionRun

def toList (r : PartitionRun) : List Partition :=
  (walk (r.count : Int) r.remaining r.basic).map (Partition.ofBasic r.count)

/-- The first partition of a run and the rest, if there is one. -/
def next? (r : PartitionRun) : Option (Partition × PartitionRun) :=
  match r.remaining with
  | 0 => none
  | remaining + 1 =>
    some (.ofBasic r.count r.basic,
      match successor? (r.count : Int) r.basic with
      | some basic => { r with remaining, basic }
      | none => { r with remaining := 0 })

/-- Handing out partitions one at a time gives the run in order. -/
theorem toList_eq_next? (r : PartitionRun) :
    r.toList = match r.next? with
      | none => []
      | some (p, rest) => p :: rest.toList := by
  obtain ⟨count, remaining, basic⟩ := r
  cases remaining with
  | zero => rfl
  | succ remaining =>
    simp only [toList, next?, walk, List.map_cons]
    cases successor? (count : Int) basic <;> simp [walk]

/-- The first partitions of a run, at most `size` of them, and the rest. -/
def chunk : Nat → PartitionRun → List Partition × PartitionRun
  | 0, r => ([], r)
  | size + 1, r =>
    match r.next? with
    | none => ([], r)
    | some (p, rest) =>
      let (ps, rest) := chunk size rest
      (p :: ps, rest)

/-- A chunk holds the next partitions, as many as it has room for, and leaves the others. -/
theorem chunk_eq (size : Nat) (r : PartitionRun) :
    (chunk size r).1 = r.toList.take size ∧ (chunk size r).2.toList = r.toList.drop size := by
  induction size generalizing r with
  | zero => simp [chunk]
  | succ size ih =>
    rw [chunk, toList_eq_next? r]
    cases h : r.next? with
    | none => simp [toList_eq_next? r, h]
    | some entry => simp [ih entry.2]

/-- The run over all partitions, cut off after `limit` of them. -/
def initial (n m limit : Nat) : PartitionRun :=
  ⟨n + m, min limit (Partition.count n m), indices m⟩

/-- The run over a shard, cut off after `limit` partitions. -/
def ofShard (s : Shard) (n m limit : Nat) : PartitionRun :=
  let (start, stop) := s.bounds (Partition.count n m)
  if stop ≤ start then ⟨n + m, 0, []⟩
  else match Partition.atRank? start n m with
    | .ok p => ⟨n + m, min limit (stop - start).toNat, p.basic⟩
    | .error _ => ⟨n + m, 0, []⟩

end PartitionRun

end Polyhedra
