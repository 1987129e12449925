import Polyhedra.DenseMatrix

/-!
# Steps named by integers

The steps of elimination on a table that is worked on in place, with rows and columns named by any
integers: a negative one counts from the end. Right-hand sides may stand beside the table and need not
have as many rows. A step breaks off when it comes to an entry that is not there; what it changed before
stays changed.
-/

namespace Polyhedra

variable {α β : Type}

/-- The position below a limit that an integer names, a negative one from the end. -/
def wrapped? (limit : Nat) (i : Int) : Option (Fin limit) :=
  let place := if i < 0 then i + limit else i
  if h : 0 ≤ place ∧ place.toNat < limit then some ⟨place.toNat, h.2⟩ else none

/-- The integers from one up to another, that one left out. -/
def span (first stop : Int) : List Int :=
  (List.range (stop - first).toNat).map fun (k : Nat) => first + (k : Int)

namespace DenseMatrix

/-- The entry at a place named by integers. -/
def entryAt? (a : DenseMatrix α) (row col : Int) : Option α :=
  (wrapped? a.rows row).bind fun i => (wrapped? a.cols col).map (a.entries.entry i)

def swapAt? (a : DenseMatrix α) (i j : Int) : Option (DenseMatrix α) :=
  (wrapped? a.rows i).bind fun p => (wrapped? a.rows j).map fun q =>
    ⟨a.rows, a.cols, a.entries.swapRows p q⟩

variable [Scalar α]

/-- Divide a row by a number, from a column on. -/
def divideRowAt? (a : DenseMatrix α) (row : Int) (start : Nat) (divisor : α) : Option (DenseMatrix α) :=
  (wrapped? a.rows row).map fun i => ⟨a.rows, a.cols, a.entries.divideRow i start divisor⟩

/-- Take a multiple of a row from a target row, from a column on. -/
def subtractAt? (a : DenseMatrix α) (target row : Int) (start : Nat) (multiplier : α) :
    Option (DenseMatrix α) :=
  (wrapped? a.rows target).bind fun i => (wrapped? a.rows row).map fun p =>
    ⟨a.rows, a.cols, a.entries.subtractMultiples p start
      (Vector.ofFn fun k => if k = i then some multiplier else none)⟩

end DenseMatrix

/-- A table that is worked on, and the right-hand sides beside it if there are any. -/
structure Workspace (α : Type) where
  left : DenseMatrix α
  right : Option (DenseMatrix α)

/-- Work on a table, which may break off. -/
abbrev Work (α β : Type) := OptionT (StateM (Workspace α)) β

namespace Work

/-- Break off if there is no value. -/
def need (x : Option β) : Work α β :=
  OptionT.mk (pure x)

def entry (row col : Int) : Work α α := do
  need ((← get).left.entryAt? row col)

def changeLeft (f : DenseMatrix α → Option (DenseMatrix α)) : Work α Unit := do
  let left ← need (f (← get).left)
  modify fun w => { w with left }

def changeRight (f : DenseMatrix α → Option (DenseMatrix α)) : Work α Unit := do
  match (← get).right with
  | none => pure ()
  | some right =>
    let right ← need (f right)
    modify fun w => { w with right := some right }

def rowCount : Work α Nat := do
  return (← get).left.rows

/-- The first column that an integer inside the table names. -/
def firstColumn (col : Int) : Work α Nat := do
  return (← need (wrapped? (← get).left.cols col)).val

/-- Exchange two rows of the table only. -/
def swapRows (i j : Int) : Work α Unit :=
  if i = j then pure () else changeLeft (·.swapAt? i j)

variable [Scalar α]

/-- Take a multiple of a row from a target row, in the table from a column on and on the right. -/
def subtract (target row : Int) (start : Nat) (multiplier : α) : Work α Unit := do
  changeLeft (·.subtractAt? target row start multiplier)
  changeRight (·.subtractAt? target row 0 multiplier)

/-- The first row from `start` on whose entry in a column exceeds the tolerance. -/
def findPivot (tolerance : α) (col start : Int) : Work α (Option Int) := do
  let rows ← rowCount
  if start < -(rows : Int) then failure
  (span start rows).findM? fun row => return Scalar.isSizeable tolerance (← entry row col)

/-- Divide a row by its pivot, from the pivot on, unless the pivot is one already. -/
def normalize (row col : Int) : Work α Unit := do
  let pivot ← entry row col
  if Scalar.eq pivot 1 then return
  let start ← firstColumn col
  changeLeft (·.divideRowAt? row start pivot)
  changeRight (·.divideRowAt? row 0 pivot)

/-- Clear a column in the rows after a pivot, one row after the other. The multiples taken are the answer,
zero for a row whose entry was zero. -/
def clearBelow (row col : Int) : Work α (List α) := do
  let pivot ← entry row col
  let start ← firstColumn col
  (span (row + 1) (← rowCount)).mapM fun target => do
    let x ← entry target col
    if Scalar.eq x 0 then return 0
    let multiplier := x / pivot
    subtract target row start multiplier
    return multiplier

/-- Clear a column in the rows before a pivot that is one, the nearest row first. -/
def clearAbove (row col : Int) : Work α Unit := do
  if (← rowCount) < row then failure
  (span 0 row).reverse.forM fun target => do
    let x ← entry target col
    if Scalar.eq x 0 then return
    subtract target row 0 x

/-- Clear every column above the diagonal, the last row first. -/
def backSubstitute : Work α Unit := do
  (span 1 (← rowCount)).reverse.forM fun row => clearAbove row row

end Work

end Polyhedra
