import Polyhedra.CommandLine.Settings
import Polyhedra.Enumeration.Report

/-!
# Response to a command

A command sets up a problem and a configuration and makes a full run of them. Whatever is wrong with the
words, with the problem, or with the configuration is told in one line, the first of them only. A switch
that was given nothing breaks the command off when its value is needed, and not before.
-/

namespace Polyhedra.CommandLine

/-- Why a command is broken off: a literal, a number or a threshold for pivots is needed where nothing was
given, or the run cannot be finished. -/
inductive Breakdown where
  | noLiteral
  | noNumber
  | noThreshold
  | run (fault : RunFault)
  deriving DecidableEq, Repr

/-- What a command leads to. -/
inductive Response where
  | help
  | refused (message : String)
  | unfinished (cause : Breakdown)
  | finished (run : FullRun)

def literal? : Option (Given String) → Except Response (DenseMatrix Float)
  | some (.value text) => (Literal.matrix? text).mapError fun fault => .refused fault.message
  | _ => .error (.unfinished .noLiteral)

def number? : Given Int → Except Response Int
  | .value n => .ok n
  | .nothing => .error (.unfinished .noNumber)

/-- The configuration that is requested. -/
def checked? (r : ConfigRequest Float) : Except Response (Config Float) :=
  r.config?.mapError fun fault => .refused fault.message

namespace Settings

/-- The problem that settings ask for. The literals are read in the order constraints, bounds, objective. -/
def problem? (t : Settings) : Except Response (Problem Float) := do
  let a ← literal? t.constraints
  let b ← literal? t.bounds
  let c ← literal? t.objective
  (Problem.ofMatrices? a b c t.sense).mapError fun fault => .refused fault.message

/-- The configuration that settings ask for. Each number is checked before the next one is needed; missing
thresholds and digits do not matter here. -/
def config? (t : Settings) : Except Response (Config Float) := do
  let r : ConfigRequest Float :=
    { tolerance := t.tolerance.getD 0.0, pivotTolerance := t.pivotTolerance.getD 0.0, verify := t.verify
      verifyDigits := t.verifyDigits.getD 0, crosscheck := t.crosscheck, output := t.output
      verbose := t.verbose }
  let r := { r with workers := ← number? t.workers }
  discard (checked? r)
  let r := { r with chunkSize := ← number? t.chunkSize }
  discard (checked? r)
  discard (checked? { r with
    shardIndex := t.shardIndex.map fun _ => 0, shardCount := t.shardCount.map fun _ => 1 })
  let r := { r with shardCount := ← t.shardCount.mapM number? }
  discard (checked? { r with shardIndex := r.shardCount.map fun _ => 0 })
  let r := { r with shardIndex := ← t.shardIndex.mapM number? }
  discard (checked? r)
  checked? { r with limit := ← t.limit.mapM number? }

/-- What is missing for a run, once the dictionaries are to be evaluated: the threshold for pivots is
needed by all of them, the tolerance by those with a basis, and the digits by feasible ones that are to be
verified. -/
def lack? (t : Settings) (e : Enumeration Float) : Option Breakdown :=
  if t.pivotTolerance.isNothing && !e.dictionaries.isEmpty then some .noThreshold
  else if t.tolerance.isNothing && e.dictionaries.any Dictionary.isBasic then some .noNumber
  else if t.verifyDigits.isNothing && t.verify && e.dictionaries.any Dictionary.isFeasible then some .noNumber
  else none

/-- The full run that settings ask for. -/
def run? (t : Settings) : Except Response FullRun := do
  let p ← t.problem?
  let c ← t.config?
  let e ← (Report.enumerated p c fun _ => false).mapError fun fault => .unfinished (.run fault)
  match t.lack? e with
  | some cause => throw (.unfinished cause)
  | none => (Report.complete c t.verifyDigits.shown e).mapError fun fault => .unfinished (.run fault)

end Settings

def respond (words : List String) : Response :=
  match settings? words with
  | .error .help => .help
  | .error (.fault fault) => .refused fault.message
  | .ok t =>
    match t.run? with
    | .error response => response
    | .ok run => .finished run

end Polyhedra.CommandLine
