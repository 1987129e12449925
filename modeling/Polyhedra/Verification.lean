import Polyhedra.Dictionary

/-!
# Verification of dictionaries

Rounded arithmetic can misjudge a sign. A dictionary is verified by solving for its basic values and its
reduced costs again in a wider arithmetic: the stored numbers must be close to the recomputed ones, and
the recomputed signs must give the same classification. The wider arithmetic and its solver are
parameters.
-/

namespace Polyhedra

/-- A way to solve square systems, which may find a system singular. -/
abbrev LinearSolver (ω : Type) := (k : Nat) → Grid ω k k → Vector ω k → Option (Vector ω k)

/-- What a dictionary reports about a basis, to be held against a recomputation. -/
structure BasisReport (α : Type) (m n : Nat) where
  basic : List Int
  nonBasic : List Int
  values : Vector α m
  costs : Vector α n
  isFeasible : Bool
  isOptimal : Bool

/-- What a dictionary with a basis reports. -/
def Dictionary.report? {α : Type} (d : Dictionary α) :
    Option (BasisReport α d.numConstraints d.numVars) :=
  d.tableau?.map fun t => ⟨d.basic, d.nonBasic, t.values, t.costs, d.isFeasible, d.isOptimal⟩

/-- The same report under an equal number of basic values. -/
def BasisReport.resize {α : Type} {m m' n : Nat} (h : m = m') (r : BasisReport α m n) :
    BasisReport α m' n :=
  { r with values := r.values.cast h }

/-- How a comparison came out. -/
inductive Agreement where
  | confirmed
  | differs
  | residuals
  deriving DecidableEq, Repr

/-- What was recomputed, and how it compares: the flags, the greatest distances of the stored values and
costs from the recomputed ones, and the conclusion. -/
structure Comparison (ω : Type) where
  feasible : Bool
  optimal : Option Bool
  valueResidual : ω
  costResidual : ω
  agreement : Agreement

inductive Check (ω : Type) where
  | noBasis
  | noConstraints
  | singular
  | compared (comparison : Comparison ω)

/-- The greatest distance between numbers at the same place; distances that do not compare are passed
over. -/
def greatestDistance {ω : Type} [Scalar ω] (pairs : List (ω × ω)) : ω :=
  pairs.foldl (fun greatest pair =>
    let distance := Scalar.abs (pair.1 - pair.2)
    if Scalar.lt greatest distance then distance else greatest) 0

namespace Verification

variable {α ω : Type} [Scalar α] [Scalar ω] {m n k : Nat}

/-- The program in the wider arithmetic. -/
def widen (embed : α → ω) (p : Program α m n) : Program ω m n :=
  ⟨p.constraints.map embed, p.bounds.map embed, p.objective.map embed⟩

/-- The basic values and the multipliers of the constraints, if the basis can be factored. -/
def solveBasis? (solve : LinearSolver ω) (p : Program ω m n) (basic : List Int) :
    Option (Vector ω m × Vector ω m) :=
  let basis := p.columns basic m
  (solve m basis p.bounds).bind fun values =>
    (solve m basis.transpose (p.costs basic m)).map fun multipliers => (values, multipliers)

/-- The reduced costs that multipliers give at the places of a list of indices. -/
def reducedCosts (p : Program ω m n) (nonBasic : List Int) (multipliers : Vector ω m) (k : Nat) : Vector ω k :=
  Vector.ofFn fun j =>
    (p.costs nonBasic k).get j -
      Scalar.sum ((List.finRange m).map fun i => multipliers.get i * p.augmented i (indexAt nonBasic j))

/-- Compare reported numbers and flags with recomputed numbers. -/
def compare (embed : α → ω) (tolerance residualTolerance : ω) (r : BasisReport α m k) (values : Vector ω m)
    (costs : Vector ω k) : Comparison ω :=
  let valueResidual := greatestDistance
    ((List.finRange m).map fun i => (values.get i, embed (r.values.get i)))
  let costResidual := greatestDistance
    ((List.finRange k).map fun j => (costs.get j, embed (r.costs.get j)))
  let feasible := (List.finRange m).all fun i => Scalar.le (-tolerance) (values.get i)
  let optimal := if feasible then
    some ((List.finRange k).all fun j => Scalar.le (costs.get j) tolerance) else none
  let sameFlags := feasible == r.isFeasible &&
    (!(feasible && r.isFeasible) || optimal == some r.isOptimal)
  let within := Scalar.le valueResidual residualTolerance && Scalar.le costResidual residualTolerance
  { feasible, optimal, valueResidual, costResidual
    agreement := if !within then .residuals else if sameFlags then .confirmed else .differs }

/-- Verify what is reported about a program. The report may be about another number of variables. -/
def verifyReport (embed : α → ω) (solve : LinearSolver ω) (tolerance residualTolerance : ω)
    (p : Program α m n) (r : BasisReport α m k) : Check ω :=
  if m = 0 then .noConstraints
  else
    let wide := widen embed p
    match solveBasis? solve wide r.basic with
    | none => .singular
    | some (values, multipliers) =>
      .compared (compare embed tolerance residualTolerance r values
        (reducedCosts wide r.nonBasic multipliers k))

def verify (embed : α → ω) (solve : LinearSolver ω) (tolerance residualTolerance : ω)
    (p : Program α m n) (r : Option (BasisReport α m k)) : Check ω :=
  match r with
  | none => .noBasis
  | some r => verifyReport embed solve tolerance residualTolerance p r

/-- Whether all indices belong to a program with `count` columns. -/
def areInside (count : Nat) (l : List Int) : Bool :=
  l.all fun i => i < (count : Int)

/-- Verify a dictionary that may have been built for another program. A basis with too few columns is
singular. There is no answer if the dictionary needs a column that the program does not have, a non-basic
one only if the basis can be factored. -/
def verifyForeign? (embed : α → ω) (solve : LinearSolver ω) (tolerance residualTolerance : ω)
    (p : Program α m n) (d : Dictionary α) : Option (Check ω) :=
  match d.report? with
  | none => some .noBasis
  | some r =>
    if m = 0 then some .noConstraints
    else if m < d.numConstraints || !areInside (n + m) d.basic then none
    else if h : d.numConstraints = m then
      match verifyReport embed solve tolerance residualTolerance p (r.resize h) with
      | .compared comparison =>
        if areInside (n + m) d.nonBasic then some (.compared comparison) else none
      | check => some check
    else some .singular

end Verification

namespace Check

variable {ω : Type}

/-- Whether there was a basis to verify. -/
def isChecked : Check ω → Bool
  | noBasis | noConstraints => false
  | _ => true

def basisOk : Check ω → Bool
  | compared _ => true
  | _ => false

def feasible? : Check ω → Option Bool
  | compared c => some c.feasible
  | _ => none

def optimal? : Check ω → Option Bool
  | compared c => c.optimal
  | _ => none

def valueResidual [Zero ω] : Check ω → ω
  | compared c => c.valueResidual
  | _ => 0

def costResidual [Zero ω] : Check ω → ω
  | compared c => c.costResidual
  | _ => 0

/-- Whether the dictionary was confirmed. -/
def agrees : Check ω → Bool
  | compared c => c.agreement = .confirmed
  | _ => false

def flagText : Option Bool → String
  | some true => "True"
  | some false => "False"
  | none => "None"

/-- The result in words, for a verification at a number of decimal digits. -/
def message (residualText : ω → String) (digits : Int) : Check ω → String
  | noBasis => "Dictionary has no basis to verify."
  | noConstraints => "Problem has no constraints; nothing to factor."
  | singular => "Basis is singular at extended precision."
  | compared c =>
    match c.agreement with
    | .confirmed => "Classification confirmed at dps=" ++ toString digits ++ "."
    | .residuals =>
      "Residuals too large at dps=" ++ toString digits ++ ": values " ++ residualText c.valueResidual ++
        ", costs " ++ residualText c.costResidual ++ "."
    | .differs =>
      "Classification differs at dps=" ++ toString digits ++ ": feasible=" ++
        flagText (some c.feasible) ++ ", optimal=" ++ flagText c.optimal ++ "."

end Check

end Polyhedra
