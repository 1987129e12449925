import Polyhedra.Dictionary
import Polyhedra.Enumeration.Config
import Polyhedra.Enumeration.Schedule
import Polyhedra.Listing.Points
import Polyhedra.Listing.Summary

/-!
# Enumeration of dictionaries

The dictionary of every partition that a configuration covers, in order. A partition that is no basis or
not feasible is listed like the others.
-/

namespace Polyhedra

/-- The dictionaries of a run, how many were planned, and whether the probe stopped it. -/
structure Enumeration (α : Type) where
  problem : Problem α
  dictionaries : List (Dictionary α)
  planned : Nat
  cancelled : Bool

variable {α : Type} [Scalar α]

/-- The dictionary of a partition with the tolerances of a configuration. -/
def Config.evaluate (c : Config α) (p : Problem α) (partition : Partition) : Dictionary α :=
  .ofPartition p partition c.tolerance c.pivotTolerance

/-- Evaluate the partitions of a configuration, alone or with a pool of workers. -/
def enumerate (p : Problem α) (c : Config α) (probe : Probe) (progress : Progress) : Enumeration α :=
  let run := c.run p.numVars p.numConstraints
  let evaluated :=
    if 1 < c.workers then evaluatePool (c.evaluate p) probe progress c.workers c.chunkSize run
    else evaluateSerial (c.evaluate p) probe run
  { problem := p
    dictionaries := evaluated.results
    planned := c.planned p.numVars p.numConstraints
    cancelled := evaluated.cancelled }

/-- Evaluate the partitions of a configuration, if nothing keeps the run from being started. -/
def enumerate? (p : Problem α) (c : Config α) (probe : Probe) (progress : Progress) :
    Except Obstacle (Enumeration α) :=
  match c.obstacle? with
  | some obstacle => .error obstacle
  | none => .ok (enumerate p c probe progress)

namespace Enumeration

def optimal? (e : Enumeration α) : Option (Dictionary α) :=
  e.dictionaries.find? Dictionary.isOptimal

/-- The value of the first optimal dictionary, in the sense of the problem. -/
def optimalValue? (e : Enumeration α) : Option α :=
  e.optimal?.bind fun d => d.zeta?.map e.problem.objectiveValue

/-- The point of the first optimal dictionary. -/
def optimalPoint? (e : Enumeration α) : Option (List α) :=
  e.optimal?.map Dictionary.point

def isUnbounded (e : Enumeration α) : Bool :=
  e.dictionaries.any Dictionary.isUnbounded

/-- The vertices reached by feasible dictionaries, without repetitions. -/
def feasiblePoints [Numeral α] (e : Enumeration α) : List (List α) :=
  Listing.distinctPoints [] ((e.dictionaries.filter Dictionary.isFeasible).map Dictionary.point)

def entries [Numeral α] (e : Enumeration α) : List (Entry α) :=
  e.dictionaries.map Dictionary.entry

def summary [Numeral α] (e : Enumeration α) : Listing.Summary :=
  Listing.summary e.entries

end Enumeration

end Polyhedra
