import Polyhedra.Crosscheck
import Polyhedra.Enumeration.Basic
import Polyhedra.Listing.Record
import Polyhedra.Text.Path
import Polyhedra.Verification.Digits

/-!
# Full runs

A full run enumerates and then, as configured, verifies the feasible dictionaries, cross-checks the
optimum, and writes the listing to a file. Everything it would print is a list of lines.
-/

namespace Polyhedra

open Polyhedra.Text

/-- A file to be written. -/
structure OutputFile where
  path : String
  text : String

/-- The results of a full run. -/
structure FullRun where
  enumeration : Enumeration Float
  checkDigits : Int
  checks : List (Check (Extended (bitsForDigits checkDigits)))
  crosscheck : Option (Crosscheck Float)
  file : Option OutputFile
  printed : List String

/-- Why a run cannot be finished: it cannot be started, a dictionary cannot be verified, the solver refuses
the cross-check, or the file cannot be written. -/
inductive RunFault where
  | start (obstacle : Obstacle)
  | verification (fault : Verification.Fault)
  | solverRefusal
  | output (fault : Path.Fault)
  deriving DecidableEq, Repr

namespace Report

/-- The number of partitions above which a run is announced with a warning. -/
def warningCount : Nat := 200000

/-- The default distance that a verified number may have. -/
def residualTolerance : Float := 1e-9

/-- The default tolerance of a cross-check. -/
def crosscheckTolerance : Float := 1e-6

/-- The lines that announce an enumeration. -/
def opening (workers n m planned : Nat) : List String :=
  ("Enumeration: " ++ toString planned ++ " of " ++ toString (Partition.count n m) ++
    " partitions (n=" ++ toString n ++ ", m=" ++ toString m ++ ", workers=" ++ toString workers ++ ")") ::
  if warningCount < planned then
    ["  WARNING: " ++ toString planned ++ " partitions exceeds " ++ toString warningCount ++
      "; consider sharding or a smaller problem"]
  else []

/-- The lines that an enumeration prints. -/
def enumerationLines (c : Config Float) (e : Enumeration Float) : List String :=
  if c.verbose then
    opening c.workers e.problem.numVars e.problem.numConstraints e.planned ++
      if e.cancelled then
        ["  Cancelled after " ++ toString e.dictionaries.length ++ "/" ++ toString e.planned ++
          " partitions"]
      else []
  else []

/-- Verify the feasible dictionaries of an enumeration, each with its dictionary. -/
def verified (c : Config Float) (e : Enumeration Float) :
    Except RunFault (List (Dictionary Float × Check (Extended (bitsForDigits c.verifyDigits)))) :=
  if c.verify then
    (e.dictionaries.filter Dictionary.isFeasible).mapM fun d =>
      match Verification.verifyDictionary? c.verifyDigits (Verification.guardedSolver _) c.tolerance
          residualTolerance e.problem d with
      | .ok check => .ok (d, check)
      | .error fault => .error (.verification fault)
  else .ok []

/-- The lines of the verification: one for each dictionary that was not confirmed. The number of digits is
given as it is shown. -/
def verificationLines (c : Config Float) (shownDigits : String)
    (checks : List (Dictionary Float × Check (Extended (bitsForDigits c.verifyDigits)))) : List String :=
  if c.verbose && c.verify then
    ("Verifying " ++ toString checks.length ++ " feasible dictionaries at dps=" ++ shownDigits ++ "...") ::
      (checks.filter fun entry => !entry.2.agrees).map fun (d, check) =>
        "  B=" ++ indexListText d.basic ++ ": " ++ check.message residualText c.verifyDigits
  else []

/-- Cross-check the optimum of an enumeration, if that is asked for. -/
def crosschecked (c : Config Float) (e : Enumeration Float) :
    Except RunFault (Option (Crosscheck Float)) :=
  if c.crosscheck then
    match Optimum.solveDoubles? e.problem.program with
    | none => .error .solverRefusal
    | some outcome =>
      .ok (some (Crosscheck.compare e.problem outcome crosscheckTolerance e.optimalValue? e.isUnbounded))
  else .ok none

/-- The line of a cross-check. -/
def crosscheckLine (x : Crosscheck Float) : String :=
  "linprog cross-check: " ++ x.outcome.status ++ " -> " ++
    (if x.agrees = some true then "MATCH" else "MISMATCH") ++ " (" ++ x.message ++ ")"

/-- The lines about the vertices and the optimum. -/
def closing (e : Enumeration Float) : List String :=
  e.summary.lines ++ ["Feasible vertices: " ++ toString e.feasiblePoints.length,
    match e.optimalPoint?, e.optimalValue? with
    | some point, some value =>
      "Optimal vertex: " ++ tuple (point.map Numeral.text) ++ " (objective " ++ Numeral.brief value ++ ")"
    | _, _ =>
      if e.isUnbounded then "No optimal vertex: objective is unbounded" else "No optimal vertex found"]

/-- The file that a configuration asks for. -/
def outputFile (c : Config Float) (e : Enumeration Float) : Except RunFault (Option OutputFile) :=
  match c.output with
  | none => .ok none
  | some path =>
    match Path.fault? path with
    | some fault => .error (.output fault)
    | none => .ok (some ⟨path, Listing.table e.entries⟩)

/-- What is printed after an enumeration and its verification. -/
def conclusion (c : Config Float) (e : Enumeration Float) (crosscheck : Option (Crosscheck Float))
    (file : Option OutputFile) : List String :=
  if c.verbose then
    crosscheck.toList.map crosscheckLine ++
      (file.toList.map fun f => "Results written to " ++ Path.shown f.path) ++ closing e
  else []

/-- Verify, cross-check and list an enumeration as configured. -/
def complete (c : Config Float) (shownDigits : String) (e : Enumeration Float) : Except RunFault FullRun := do
  let checks ← verified c e
  let crosscheck ← crosschecked c e
  let file ← outputFile c e
  return {
    enumeration := e
    checkDigits := c.verifyDigits
    checks := checks.map Prod.snd
    crosscheck := crosscheck
    file := file
    printed := enumerationLines c e ++ verificationLines c shownDigits checks ++
      conclusion c e crosscheck file }

/-- The enumeration of a full run. -/
def enumerated (p : Problem Float) (c : Config Float) (probe : Probe) : Except RunFault (Enumeration Float) :=
  (enumerate? p c probe fun _ _ => true).mapError .start

/-- A full run. -/
def fullRun (p : Problem Float) (c : Config Float) (probe : Probe) : Except RunFault FullRun := do
  complete c (toString c.verifyDigits) (← enumerated p c probe)

end Report

/-- Lines as they are printed. -/
def printedText (lines : List String) : String :=
  String.join (lines.map (· ++ "\n"))

end Polyhedra
