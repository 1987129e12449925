import Polyhedra.Optimum

/-!
# Cross-checking an enumerated optimum

The optimum that an enumeration found is held against a solver that looks at the program as a whole. Only
values are compared, since several vertices may be optimal.
-/

namespace Polyhedra

/-- The result of a cross-check: what the solver said, with an optimum in the problem's own sense, and
whether the enumeration agrees, if there was one to compare. -/
structure Crosscheck (α : Type) where
  outcome : SolverOutcome α
  agrees : Option Bool
  message : String

namespace SolverOutcome

variable {α : Type}

def status : SolverOutcome α → String
  | optimal _ => "optimal"
  | infeasible => "infeasible"
  | unbounded => "unbounded"
  | undecided => "failed"

def code : SolverOutcome α → Nat
  | optimal _ => 0
  | undecided => 1
  | infeasible => 2
  | unbounded => 3

def message : SolverOutcome α → String
  | optimal _ => "Optimization terminated successfully. (HiGHS Status 7: Optimal)"
  | infeasible =>
    "The problem is infeasible. (HiGHS Status 8: model_status is Infeasible; primal_status is Infeasible)"
  | unbounded =>
    "The problem is unbounded. (HiGHS Status 10: model_status is Unbounded; primal_status is Feasible)"
  | undecided =>
    "Iteration limit reached. (HiGHS Status 14: model_status is Iteration limit reached; " ++
      "primal_status is Infeasible)"

/-- The optimum, if there is one. -/
def objective? : SolverOutcome α → Option α
  | optimal x => some x
  | _ => none

/-- The outcome in the sense of a problem, from the least value of the negated objective. -/
def inSense [Scalar α] (p : Problem α) : SolverOutcome α → SolverOutcome α
  | optimal least => optimal (p.objectiveValue (-least))
  | other => other

end SolverOutcome

namespace Crosscheck

variable {α : Type}

/-- The solver's result with nothing to compare. -/
def solved [Scalar α] (p : Problem α) (outcome : SolverOutcome α) : Crosscheck α :=
  ⟨outcome.inSense p, none, outcome.message⟩

/-- Whether an enumerated value is within a tolerance of an optimum, relative to its size if that is
above one. -/
def isNear [Scalar α] (tolerance optimum value : α) : Bool :=
  let size := Scalar.abs optimum
  let scale := if Scalar.lt 1 size then size else 1
  Scalar.le (Scalar.abs (optimum - value)) (tolerance * scale)

/-- Hold the optimum of an enumeration, and whether it met an unbounded dictionary, against a solver. -/
def compare [Scalar α] [Numeral α] (p : Problem α) (outcome : SolverOutcome α) (tolerance : α)
    (value : Option α) (anyUnbounded : Bool) : Crosscheck α :=
  let result := solved p outcome
  match result.outcome with
  | .optimal optimum =>
    match value with
    | none =>
      { result with
        agrees := some false
        message := "linprog found optimum " ++ Numeral.brief optimum ++
          " but enumeration found no optimal vertex" }
    | some value =>
      { result with
        agrees := some (isNear tolerance optimum value)
        message := "linprog objective " ++ Numeral.brief optimum ++ " vs enumerated " ++
          Numeral.brief value }
  | .unbounded => { result with agrees := some (value.isNone && anyUnbounded) }
  | .infeasible => { result with agrees := some (value.isNone && !anyUnbounded) }
  | .undecided => result

end Crosscheck

end Polyhedra
