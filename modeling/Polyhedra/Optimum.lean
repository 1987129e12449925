import Polyhedra.Dictionary

/-!
# Exact optima

A program over the rational numbers is solved by walking from dictionary to dictionary. Each step takes
the least index whose sign is wrong, a basic variable below zero or a non-basic one with an improving
cost, and exchanges it for the least index of the other kind that can mend it. No basis comes twice, so
the number of bases bounds the walk, and no feasible basis is needed to start with.
-/

namespace Polyhedra

/-- The result of minimising the negated objective of a program. -/
inductive SolverOutcome (α : Type) where
  | optimal (least : α)
  | infeasible
  | unbounded
  | undecided

namespace Optimum

variable {m n : Nat}

/-- How a walk ends: with an optimal table, with a row that no point can satisfy, or with a direction
in which the objective improves for ever if there is any point at all. -/
inductive WalkEnd where
  | optimal (zeta : Rat)
  | impossibleRow
  | freeDirection
  | tooLong

/-- The first place with an element that passes a test. -/
def placeOf {k : Nat} (test : Fin k → Bool) : Option (Fin k) :=
  (List.finRange k).find? test

def indexOf {k : Nat} (l : List Int) (place : Fin k) : Int :=
  l.getD place 0

/-- What to do at a basis. -/
inductive Move where
  | stop (ending : WalkEnd)
  | exchange (leaving entering : Int)

/-- The move from a table: mend the least index whose sign is wrong. -/
def move (t : Tableau Rat m n) (basic nonBasic : List Int) : Move :=
  let row := placeOf fun i : Fin m => t.values.get i < 0
  let col := placeOf fun j : Fin n => 0 < t.costs.get j
  let mendRow (i : Fin m) : Move :=
    match placeOf fun j : Fin n => 0 < t.coefficients.entry i j with
    | some j => .exchange (indexOf basic i) (indexOf nonBasic j)
    | none => .stop .impossibleRow
  let mendColumn (j : Fin n) : Move :=
    match placeOf fun i : Fin m => t.coefficients.entry i j < 0 with
    | some i => .exchange (indexOf basic i) (indexOf nonBasic j)
    | none => .stop .freeDirection
  match row, col with
  | none, none => .stop (.optimal t.zeta)
  | some i, none => mendRow i
  | none, some j => mendColumn j
  | some i, some j => if indexOf basic i < indexOf nonBasic j then mendRow i else mendColumn j

/-- Walk from a basis, at most a number of steps. -/
def walkBases (p : Program Rat m n) : Nat → List Int → WalkEnd
  | 0, _ => .tooLong
  | steps + 1, basic =>
    let nonBasic := Partition.complement basic (n + m)
    match (p.columns basic m).inverse 0 with
    | .error _ => .tooLong
    | .ok inverse =>
      match move (p.tableau basic nonBasic inverse) basic nonBasic with
      | .stop ending => ending
      | .exchange leaving entering => walkBases p steps (ascending (entering :: basic.erase leaving))

/-- Walk from the basis of slack variables. -/
def walkAll (p : Program Rat m n) : WalkEnd :=
  walkBases p (binomial (n + m) m + 1) ((indices (n + m)).drop n)

/-- Solve a program. A free direction is unbounded unless the constraints alone cannot be met. -/
def solve (p : Program Rat m n) : SolverOutcome Rat :=
  match walkAll p with
  | .optimal zeta => .optimal (-zeta)
  | .impossibleRow => .infeasible
  | .tooLong => .undecided
  | .freeDirection =>
    match walkAll { p with objective := Vector.ofFn fun _ => 0 } with
    | .optimal _ => .unbounded
    | .impossibleRow => .infeasible
    | _ => .undecided

/-- The exact value of every number, if all are finite. -/
def exactList? (xs : List Float) : Option (List Rat) :=
  xs.mapM Decimal.Binary64.toRat?

/-- Solve a program of doubles exactly and round the result. A program without variables or with a number
that is not finite is refused. -/
def solveDoubles? (p : Program Float m n) : Option (SolverOutcome Float) :=
  if n = 0 then none
  else
    (p.constraints.toLists.mapM exactList?).bind fun constraints =>
      (exactList? p.bounds.toList).bind fun bounds =>
        (exactList? p.objective.toList).map fun objective =>
          let exact : Program Rat m n :=
            ⟨.ofLists 0 constraints, Vector.ofFn fun i => bounds.getD i 0,
              Vector.ofFn fun j => objective.getD j 0⟩
          match solve exact with
          | .optimal least => .optimal (Decimal.Binary64.ofRat least)
          | .infeasible => .infeasible
          | .unbounded => .unbounded
          | .undecided => .undecided

end Optimum

end Polyhedra
