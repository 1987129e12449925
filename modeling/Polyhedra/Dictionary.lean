import Polyhedra.Elimination.Solution
import Polyhedra.Partition.Basic
import Polyhedra.Problem

/-!
# Dictionaries

With slack variables the constraints read `[A | I] x = b`. A partition whose basic columns can be inverted
expresses the basic variables and the objective through the non-basic ones:

    x_B  = values + coefficients · x_N
    zeta = zeta + costs · x_N

The signs in this table classify the partition. Building a dictionary never fails: a partition that is
invalid or no basis has a dictionary that says so.
-/

namespace Polyhedra

open Polyhedra.Text

/-- The table of a basis: rows belong to basic indices in ascending order, columns to non-basic ones. -/
structure Tableau (α : Type) (m n : Nat) where
  zeta : α
  values : Vector α m
  costs : Vector α n
  coefficients : Grid α m n

/-- What the signs of a table say. `infeasible` names the first negative basic variable, `unbounded` a
variable that can grow for ever, and `suboptimal` tells how many directions improve. -/
inductive Verdict (α : Type) where
  | infeasible (index : Int) (value : α)
  | suboptimal (improving : Nat)
  | unbounded (index : Int)
  | optimal

/-- How far a partition came. -/
inductive Outcome (α : Type) (m n : Nat) where
  | invalid (fault : PartitionFault)
  | notBasic
  | evaluated (tableau : Tableau α m n) (verdict : Verdict α)

/-- The dictionary of one partition. The index lists are ascending when the partition is valid. -/
structure Dictionary (α : Type) where
  numConstraints : Nat
  numVars : Nat
  basic : List Int
  nonBasic : List Int
  outcome : Outcome α numConstraints numVars

inductive Status where
  | invalid
  | notBasic
  | infeasible
  | suboptimal
  | unbounded
  | optimal
  deriving DecidableEq, Repr

def Status.name : Status → String
  | .invalid => "invalid"
  | .notBasic => "not_basic"
  | .infeasible => "infeasible"
  | .suboptimal => "suboptimal"
  | .unbounded => "unbounded"
  | .optimal => "optimal"

/-- The index at a place of a list of indices, as a natural number. -/
def indexAt (l : List Int) (place : Nat) : Nat :=
  (l.getD place 0).toNat

/-- The coordinates that basic values give: a value belongs to the basic index at its place, and the
indices from `numVars` on are slack. Coordinates that no index names are zero. -/
def coordinates {α : Type} [Zero α] (basic : List Int) (values : List α) (numVars : Nat) : List α :=
  (basic.zip values).foldl
    (fun point entry => if entry.1 < (numVars : Int) then point.set entry.1.toNat entry.2 else point)
    (List.replicate numVars 0)

namespace Program

variable {α : Type} [Scalar α] {m n : Nat}

/-- The entry of `[A | I]` in a row and the column of an index. -/
def augmented (p : Program α m n) (i : Fin m) (index : Nat) : α :=
  if h : index < n then p.constraints.entry i ⟨index, h⟩
  else if index = n + i then 1 else 0

/-- The objective coefficient of an index; slack variables have none. -/
def cost (p : Program α m n) (index : Nat) : α :=
  if h : index < n then p.objective[index] else 0

/-- The columns of `[A | I]` at the places of a list of indices. -/
def columns (p : Program α m n) (l : List Int) (count : Nat) : Grid α m count :=
  .build fun i j => p.augmented i (indexAt l j)

def costs (p : Program α m n) (l : List Int) (count : Nat) : Vector α count :=
  Vector.ofFn fun j => p.cost (indexAt l j)

/-- The table of a basis, from the inverse of its columns. -/
def tableau (p : Program α m n) (basic nonBasic : List Int) (inverse : Grid α m m) : Tableau α m n :=
  let values := inverse.mul (.ofColumn p.bounds)
  let basicCosts := Grid.ofRow (p.costs basic m)
  let others := p.columns nonBasic n
  let carried := ((basicCosts.mul inverse).mul others).toRow
  { zeta := (basicCosts.mul values).single
    values := values.toColumn
    costs := Vector.ofFn fun j => (p.costs nonBasic n).get j - carried.get j
    coefficients := inverse.mul (others.scale (-1)) }

end Program

namespace Tableau

variable {α : Type} [Scalar α] {m n : Nat}

/-- The places of the improving columns: those with a cost above the tolerance. -/
def improving (t : Tableau α m n) (tolerance : α) : List (Fin n) :=
  (List.finRange n).filter fun j => Scalar.lt tolerance (t.costs.get j)

/-- Whether no basic variable falls along a column. -/
def isRay (t : Tableau α m n) (tolerance : α) (j : Fin n) : Bool :=
  (List.finRange m).all fun i => Scalar.le (-tolerance) (t.coefficients.entry i j)

/-- Classify a table: negative values first, then improving columns, then rays among these. -/
def classify (t : Tableau α m n) (tolerance : α) (basic nonBasic : List Int) : Verdict α :=
  match (List.finRange m).find? fun i => Scalar.lt (t.values.get i) (-tolerance) with
  | some i => .infeasible (basic.getD i 0) (t.values.get i)
  | none =>
    match t.improving tolerance with
    | [] => .optimal
    | first :: others =>
      match (first :: others).find? (t.isRay tolerance) with
      | some j => .unbounded (nonBasic.getD j 0)
      | none => .suboptimal (others.length + 1)

end Tableau

namespace Dictionary

variable {α : Type}

section Build

variable [Scalar α] {m n : Nat}

/-- Evaluate a valid partition, given in ascending order. -/
def evaluate (p : Program α m n) (basic nonBasic : List Int) (tolerance pivotTolerance : α) :
    Outcome α m n :=
  match (p.columns basic m).inverse pivotTolerance with
  | .error _ => .notBasic
  | .ok inverse =>
    let t := p.tableau basic nonBasic inverse
    .evaluated t (t.classify tolerance basic nonBasic)

def build (p : Program α m n) (basic nonBasic : List Int) (tolerance pivotTolerance : α) :
    Dictionary α :=
  match Partition.check basic nonBasic n m with
  | .error fault => ⟨m, n, basic, nonBasic, .invalid fault⟩
  | .ok _ =>
    let basic := ascending basic
    let nonBasic := ascending nonBasic
    ⟨m, n, basic, nonBasic, evaluate p basic nonBasic tolerance pivotTolerance⟩

/-- The dictionary of two lists of indices for a constraint matrix with its bounds and an objective to
be maximised. Only wrong shapes of these are refused. -/
def ofMatrices? (a b c : DenseMatrix α) (basic nonBasic : List Int) (tolerance pivotTolerance : α) :
    Except MatrixFault (Dictionary α) :=
  match companions? false a b c with
  | .error fault => .error fault
  | .ok (bounds, objective) =>
    .ok (build ⟨a.entries, bounds, objective⟩ basic nonBasic tolerance pivotTolerance)

def ofPartition (p : Problem α) (partition : Partition) (tolerance pivotTolerance : α) : Dictionary α :=
  build p.program partition.basic partition.nonBasic tolerance pivotTolerance

end Build

/-! ### What a dictionary says -/

/-- The table, when the partition is a basis. -/
def tableau? (d : Dictionary α) : Option (Tableau α d.numConstraints d.numVars) :=
  match d.outcome with
  | .evaluated t _ => some t
  | _ => none

def status (d : Dictionary α) : Status :=
  match d.outcome with
  | .invalid _ => .invalid
  | .notBasic => .notBasic
  | .evaluated _ (.infeasible ..) => .infeasible
  | .evaluated _ (.suboptimal _) => .suboptimal
  | .evaluated _ (.unbounded _) => .unbounded
  | .evaluated _ .optimal => .optimal

def isValid (d : Dictionary α) : Bool :=
  match d.outcome with
  | .invalid _ => false
  | _ => true

def isBasic (d : Dictionary α) : Bool :=
  match d.outcome with
  | .evaluated .. => true
  | _ => false

def isFeasible (d : Dictionary α) : Bool :=
  match d.outcome with
  | .evaluated _ (.infeasible ..) => false
  | .evaluated .. => true
  | _ => false

def isOptimal (d : Dictionary α) : Bool :=
  match d.outcome with
  | .evaluated _ .optimal => true
  | _ => false

def isUnbounded (d : Dictionary α) : Bool :=
  match d.outcome with
  | .evaluated _ (.unbounded _) => true
  | _ => false

/-- A feasible basis belongs to a vertex. -/
def isVertex (d : Dictionary α) : Bool := d.isFeasible

def zeta? (d : Dictionary α) : Option α := d.tableau?.map Tableau.zeta

/-- The coordinates of the basic solution; none when there is no basis. -/
def point [Zero α] (d : Dictionary α) : List α :=
  match d.tableau? with
  | some t => coordinates d.basic t.values.toList d.numVars
  | none => []

def faultKind? (d : Dictionary α) : Option FaultKind :=
  match d.outcome with
  | .invalid fault => some fault.kind
  | .notBasic => some .singular
  | .evaluated .. => none

/-- The variable that can grow for ever. -/
def unboundedVariable? (d : Dictionary α) : Option Int :=
  match d.outcome with
  | .evaluated _ (.unbounded index) => some index
  | _ => none

def message [Numeral α] (d : Dictionary α) : String :=
  match d.outcome with
  | .invalid fault => fault.message
  | .notBasic => "Partition is not basic, A cannot be inverted."
  | .evaluated _ (.infeasible index value) =>
    "Partition is not feasible, negative basic variable value (x" ++ toString index ++ " = " ++
      Numeral.brief value ++ ")."
  | .evaluated _ (.suboptimal improving) =>
    "Partition is feasible but not optimal (" ++ toString improving ++ " improving direction(s))."
  | .evaluated _ (.unbounded index) =>
    "Partition is unbounded, increasing x" ++ toString index ++ " never leaves the feasible region."
  | .evaluated _ .optimal => "Partition is optimal."

end Dictionary

/-- Why a basic solution has no coordinates: there would be too many of them, a value is not there, or an
index lies before the first coordinate. -/
inductive PointFault where
  | excess (cause : Excess)
  | value (fault : MatrixFault)
  | beforeFirst (index : Int)

/-- Put the values of the basic indices, given with their rows, into a point. -/
def fillPoint? {α : Type} (values : DenseMatrix α) (numVars : Int) :
    List (Int × Nat) → List α → Except PointFault (List α)
  | [], point => .ok point
  | (index, row) :: rest, point =>
    if numVars ≤ index then fillPoint? values numVars rest point
    else
      let place := if index < 0 then index + point.length else index
      match values.get? (.pair (.whole row) (.whole 0)) with
      | .error fault => .error (.value fault)
      | .ok x =>
        if place < 0 then .error (.beforeFirst index)
        else fillPoint? values numVars rest (point.set place.toNat x)

/-- The coordinates of a basic solution whose values are a column of any length; there are none for a
negative number of variables. Values belong to the basic indices in ascending order; only those of indices
below `numVars` are read, and a negative index counts from the end. -/
def vertexPoint? {α : Type} [Zero α] (basic : List Int) (values : DenseMatrix α) (numVars : Int) :
    Except PointFault (List α) :=
  match excess? numVars.toNat with
  | some cause => .error (.excess cause)
  | none => fillPoint? values numVars (ascending basic).zipIdx (List.replicate numVars.toNat 0)

end Polyhedra
