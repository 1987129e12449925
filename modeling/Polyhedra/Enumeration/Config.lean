import Polyhedra.Partition.Run

/-!
# Configuration of an enumeration

How many workers share the work and in chunks of which size, which part of the partitions is looked at,
with which tolerances, and what is done besides. A requested configuration is checked before it is used.
-/

namespace Polyhedra

/-- A configuration as requested. Counts may be any integers. -/
structure ConfigRequest (α : Type) where
  workers : Int := 1
  chunkSize : Int := 64
  shardIndex : Option Int := none
  shardCount : Option Int := none
  limit : Option Int := none
  tolerance : α
  pivotTolerance : α
  verify : Bool := false
  verifyDigits : Int := 50
  crosscheck : Bool := false
  output : Option String := none
  verbose : Bool := false

/-- A checked configuration. -/
structure Config (α : Type) where
  workers : Nat
  workers_pos : 0 < workers
  chunkSize : Nat
  chunkSize_pos : 0 < chunkSize
  shard : Option Shard
  limit : Option Nat
  tolerance : α
  pivotTolerance : α
  verify : Bool
  verifyDigits : Int
  crosscheck : Bool
  output : Option String
  verbose : Bool

namespace ConfigRequest

variable {α : Type}

/-- The shard that a request names; index and count must be given together. -/
def shard? (r : ConfigRequest α) : Except RequestFault (Option Shard) :=
  match r.shardIndex, r.shardCount with
  | none, none => .ok none
  | some index, some count => (Shard.make? index count).map some
  | _, _ => .error .loneShardSetting

/-- The limit that a request names. -/
def limit? (r : ConfigRequest α) : Except RequestFault (Option Nat) :=
  match r.limit with
  | none => .ok none
  | some limit => if limit < 0 then .error (.partitionLimit limit) else .ok (some limit.toNat)

/-- Check a request: workers, chunk size, shard and limit, in this order. -/
def config? (r : ConfigRequest α) : Except RequestFault (Config α) :=
  if hw : r.workers < 1 then .error (.workers r.workers)
  else if hc : r.chunkSize < 1 then .error (.chunkSize r.chunkSize)
  else
    match r.shard? with
    | .error fault => .error fault
    | .ok shard =>
      match r.limit? with
      | .error fault => .error fault
      | .ok limit => .ok
        { workers := r.workers.toNat
          workers_pos := by omega
          chunkSize := r.chunkSize.toNat
          chunkSize_pos := by omega
          shard := shard
          limit := limit
          tolerance := r.tolerance
          pivotTolerance := r.pivotTolerance
          verify := r.verify
          verifyDigits := r.verifyDigits
          crosscheck := r.crosscheck
          output := r.output
          verbose := r.verbose }

end ConfigRequest

/-- The greatest number of workers that a pool can have. -/
def workerLimit : Nat := 2147483646

/-- What can keep a run from being started: something that cannot be counted off, or too many workers. -/
inductive Obstacle where
  | uncountable
  | tooManyWorkers
  deriving DecidableEq, Repr

namespace Config

variable {α : Type}

/-- How many partitions a run with this configuration evaluates unless it is stopped. -/
def planned (c : Config α) (n m : Nat) : Nat :=
  let total := Partition.count n m
  let total := match c.shard with
    | none => total
    | some s => ((s.bounds total).2 - (s.bounds total).1).toNat
  match c.limit with
  | none => total
  | some limit => min total limit

/-- The partitions that a run with this configuration evaluates. -/
def run (c : Config α) (n m : Nat) : PartitionRun :=
  let limit := c.limit.getD (Partition.count n m)
  match c.shard with
  | none => .initial n m limit
  | some s => .ofShard s n m limit

/-- The number of planned partitions for any integers. -/
def planned? (c : Config α) (n m : Int) : Except RequestFault Nat :=
  (Partition.countable? n m).map fun (n, m) => c.planned n m

/-- Whether the limit, if there is one, is a count that can be counted up to. -/
def hasCountableLimit (c : Config α) : Bool :=
  c.limit.all (· ≤ countingLimit)

/-- What keeps a run from being started: its limit, or if a pool of workers is needed their number, or the
size of their chunks, in this order. -/
def obstacle? (c : Config α) : Option Obstacle :=
  if !c.hasCountableLimit then some .uncountable
  else if c.workers ≤ 1 then none
  else if workerLimit < c.workers then some .tooManyWorkers
  else if countingLimit < c.chunkSize then some .uncountable
  else none

/-- The planned partitions for any integers. A limit that cannot be counted up to is refused at once, and one
of zero asks for none and so finds no fault. -/
def partitions? (c : Config α) (n m : Int) : Except RequestFault (List Partition) :=
  if !c.hasCountableLimit then .error (.uncountableLimit (c.limit.getD 0))
  else if c.limit = some 0 then .ok []
  else
    let sizes := if c.shard.isNone then Partition.listable? n m else Partition.countable? n m
    sizes.map fun (n, m) => (c.run n m).toList

end Config

end Polyhedra
