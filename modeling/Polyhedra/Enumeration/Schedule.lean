import Polyhedra.Partition.Run

/-!
# Working through a run of partitions

A run is evaluated by a single worker, one partition after the other, or by a pool of workers in chunks.
A probe is asked before each partition, or before each chunk, whether to stop; the number of the question
is its argument. The pool keeps a bounded window of chunks in flight and collects the oldest first, so
its results come in order whatever the order in which the workers finish.
-/

namespace Polyhedra

variable {β : Type}

/-- Whether to stop, for the first question, the second, and so on. -/
abbrev Probe := Nat → Bool

/-- The results so far and whether the probe ended the work. -/
structure Evaluated (β : Type) where
  results : List β
  cancelled : Bool

/-- Evaluate one partition after the other. `done` holds the results so far, the latest first. -/
def evaluateFrom (evaluate : Partition → β) (probe : Probe) :
    (steps polls : Nat) → PartitionRun → (done : List β) → Evaluated β
  | 0, _, _, done => ⟨done.reverse, false⟩
  | steps + 1, polls, r, done =>
    match r.next? with
    | none => ⟨done.reverse, false⟩
    | some (p, rest) =>
      if probe polls then ⟨done.reverse, true⟩
      else evaluateFrom evaluate probe steps (polls + 1) rest (evaluate p :: done)

def evaluateSerial (evaluate : Partition → β) (probe : Probe) (r : PartitionRun) : Evaluated β :=
  evaluateFrom evaluate probe r.remaining 0 r []

/-! ### A pool of workers -/

/-- A chunk that was handed to the workers: still to be finished, or with its results. -/
inductive Job (β : Type) where
  | pending (chunk : List Partition)
  | finished (results : List β)

namespace Job

/-- Let a worker finish the job. -/
def finish (evaluate : Partition → β) : Job β → Job β
  | pending chunk => finished (chunk.map evaluate)
  | job => job

/-- The results, waiting for a worker if need be. -/
def collect (evaluate : Partition → β) : Job β → List β
  | pending chunk => chunk.map evaluate
  | finished results => results

end Job

/-- The pool between two chunks: what is left of the run, the jobs in flight with the oldest first, the
results collected so far with the latest chunk first, and how often the probe was asked. -/
structure Pool (β : Type) where
  rest : PartitionRun
  inFlight : List (Job β)
  collected : List (List β)
  polls : Nat

/-- Which jobs in flight are finished by the workers after a question to the probe, by place. -/
abbrev Progress := Nat → Nat → Bool

namespace Pool

def start (r : PartitionRun) : Pool β := ⟨r, [], [], 0⟩

/-- Let the workers finish some of the jobs. -/
def work (evaluate : Partition → β) (progress : Progress) (p : Pool β) : Pool β :=
  { p with
    inFlight := p.inFlight.mapIdx fun place job =>
      if progress p.polls place then job.finish evaluate else job }

/-- Collect the oldest job if the window is full. -/
def collectIfFull (evaluate : Partition → β) (window : Nat) (p : Pool β) : Pool β :=
  match p.inFlight with
  | [] => p
  | oldest :: others =>
    if window ≤ others.length + 1 then
      { p with inFlight := others, collected := oldest.collect evaluate :: p.collected }
    else p

/-- Collect all jobs in flight, the oldest first. -/
def drain (evaluate : Partition → β) (p : Pool β) : List β :=
  ((p.inFlight.foldl (fun collected job => job.collect evaluate :: collected) p.collected).reverse).flatten

/-- How scheduling goes on after a chunk. -/
inductive Turn (β : Type) where
  | goOn (pool : Pool β)
  | stop (pool : Pool β) (cancelled : Bool)

/-- Schedule the next chunk: fetch it, ask the probe, hand it to the workers, and collect the oldest job
if the window is full. -/
def turn (evaluate : Partition → β) (probe : Probe) (progress : Progress) (size window : Nat)
    (p : Pool β) : Turn β :=
  match PartitionRun.chunk size p.rest with
  | ([], _) => .stop p false
  | (chunk, rest) =>
    if probe p.polls then .stop p true
    else
      let p : Pool β := { p with rest, inFlight := p.inFlight ++ [.pending chunk], polls := p.polls + 1 }
      .goOn ((p.work evaluate progress).collectIfFull evaluate window)

/-- Schedule chunks until there are no more or the probe says stop, then drain the pool. -/
def runFrom (evaluate : Partition → β) (probe : Probe) (progress : Progress) (size window : Nat) :
    (steps : Nat) → Pool β → Evaluated β
  | 0, p => ⟨p.drain evaluate, false⟩
  | steps + 1, p =>
    match p.turn evaluate probe progress size window with
    | .stop p cancelled => ⟨p.drain evaluate, cancelled⟩
    | .goOn p => runFrom evaluate probe progress size window steps p

end Pool

/-- Evaluate a run with a pool of workers; the window holds two chunks for each worker. -/
def evaluatePool (evaluate : Partition → β) (probe : Probe) (progress : Progress)
    (workers size : Nat) (r : PartitionRun) : Evaluated β :=
  Pool.runFrom evaluate probe progress size (2 * workers) (r.remaining + 1) (.start r)

end Polyhedra
