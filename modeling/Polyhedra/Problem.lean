import Polyhedra.DenseMatrix
import Polyhedra.Literal

/-!
# Linear programs

A linear program asks for the greatest or the least value of `c · x` over the points `x ≥ 0` with
`A x ≤ b`. It is solved as a maximisation; the least value is the negated greatest value of the negated
objective.
-/

namespace Polyhedra

/-- Which end of the objective's range is asked for. -/
inductive Sense where
  | max
  | min
  deriving DecidableEq, Repr

/-- A sense as requested: a word, or a value that is no word, as it is shown. -/
inductive SenseRequest where
  | word (text : String)
  | other (shown : String)

def SenseRequest.sense? : SenseRequest → Except RequestFault Sense
  | word "max" => .ok .max
  | word "min" => .ok .min
  | word text => .error (.unknownSense (Text.quoted text))
  | other shown => .error (.unknownSense shown)

def Sense.name : Sense → String
  | .max => "max"
  | .min => "min"

/-- The data of a maximisation with `m` constraints and `n` variables. -/
structure Program (α : Type) (m n : Nat) where
  constraints : Grid α m n
  bounds : Vector α m
  objective : Vector α n

/-- A linear program with its size and sense. The objective is the one asked for. -/
structure Problem (α : Type) where
  numConstraints : Nat
  numVars : Nat
  constraints : Grid α numConstraints numVars
  bounds : Vector α numConstraints
  objective : Vector α numVars
  sense : Sense

def Grid.toColumn {α : Type} {r : Nat} (g : Grid α r 1) : Vector α r :=
  Vector.ofFn fun i => g.entry i 0

def Grid.toRow {α : Type} {c : Nat} (g : Grid α 1 c) : Vector α c :=
  Vector.ofFn fun j => g.entry 0 j

def Grid.single {α : Type} (g : Grid α 1 1) : α :=
  g.entry 0 0

def Grid.ofColumn {α : Type} {r : Nat} (v : Vector α r) : Grid α r 1 :=
  .build fun i _ => v.get i

@[simp] theorem Grid.toColumn_ofColumn {α : Type} {r : Nat} (v : Vector α r) :
    (Grid.ofColumn v).toColumn = v := by
  apply Vector.ext
  intro i hi
  simp only [toColumn, ofColumn, entry_build, Vector.getElem_ofFn]
  rfl

def Grid.ofRow {α : Type} {c : Nat} (v : Vector α c) : Grid α 1 c :=
  .build fun _ j => v.get j

@[simp] theorem Grid.toRow_ofRow {α : Type} {c : Nat} (v : Vector α c) : (Grid.ofRow v).toRow = v := by
  apply Vector.ext
  intro j hj
  simp only [toRow, ofRow, entry_build, Vector.getElem_ofFn]
  rfl

/-- The columns of bounds and objective coefficients that go with a constraint matrix, if they have the
right shapes. -/
def companions? {α : Type} (ofProblem : Bool) (a b c : DenseMatrix α) :
    Except MatrixFault (Vector α a.rows × Vector α a.cols) :=
  if hb : b.rows = a.rows ∧ b.cols = 1 then
    if hc : c.rows = a.cols ∧ c.cols = 1 then
      .ok ((b.entries.resize hb.1 hb.2).toColumn, (c.entries.resize hc.1 hc.2).toColumn)
    else .error (.companion .objective ofProblem a.size c.size)
  else .error (.companion .bounds ofProblem a.size b.size)

namespace Problem

variable {α : Type}

/-- The problem with the given matrices. The sense is looked at before the shapes. -/
def ofMatrices? (a b c : DenseMatrix α) (sense : SenseRequest) : Except Fault (Problem α) :=
  match sense.sense? with
  | .error fault => .error (.request fault)
  | .ok sense =>
    match companions? true a b c with
    | .error fault => .error (.matrix fault)
    | .ok (bounds, objective) => .ok ⟨a.rows, a.cols, a.entries, bounds, objective, sense⟩

variable [Scalar α]

def maxObjective (p : Problem α) : Vector α p.numVars :=
  match p.sense with
  | .max => p.objective
  | .min => Vector.ofFn fun j => p.objective.get j * -1

/-- The maximisation that stands for the problem. -/
def program (p : Problem α) : Program α p.numConstraints p.numVars :=
  ⟨p.constraints, p.bounds, p.maxObjective⟩

/-- The value in the problem's own sense of a value of the maximisation. -/
def objectiveValue (p : Problem α) (zeta : α) : α :=
  match p.sense with
  | .max => zeta
  | .min => -zeta

end Problem

end Polyhedra
