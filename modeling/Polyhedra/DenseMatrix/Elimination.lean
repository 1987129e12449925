import Polyhedra.DenseMatrix
import Polyhedra.Elimination.Factors
import Polyhedra.Elimination.Solution

/-!
# Elimination on matrices of any size

Triangular forms, factors, solutions, inverses and determinants, with the size checks that they need. A
missing pivot is told with its column, except that an inverse calls the matrix singular and a
determinant is zero.
-/

namespace Polyhedra.DenseMatrix

variable {α : Type} [Scalar α]

/-- A grid as a matrix, or the fault of a column without a pivot. -/
def ofReduction (reduction : Reduction) {r c : Nat} :
    Except Nat (Grid α r c) → Except MatrixFault (DenseMatrix α)
  | .ok g => .ok ⟨r, c, g⟩
  | .error column => .error (.noPivot reduction column)

def upperTriangular? (tolerance : α) (a : DenseMatrix α) : Except MatrixFault (DenseMatrix α) :=
  ofReduction .triangulation (a.entries.upperTriangular tolerance)

def unitUpperTriangular? (tolerance : α) (a : DenseMatrix α) : Except MatrixFault (DenseMatrix α) :=
  ofReduction .triangulation (a.entries.unitUpperTriangular tolerance)

def factor? (tolerance : α) (a : DenseMatrix α) : Except MatrixFault (Factors α a.rows a.cols) :=
  match a.entries.factor tolerance with
  | .ok f => .ok f
  | .error column => .error (.noPivot .decomposition column)

/-- The solution of a square system for every column of the right-hand sides. -/
def solve? (tolerance : α) (a rightSide : DenseMatrix α) : Except MatrixFault (DenseMatrix α) :=
  if square : a.rows = a.cols then
    if h : rightSide.rows = a.cols then
      ofReduction .solving
        ((a.entries.resizeRows square).solve tolerance (rightSide.entries.resizeRows h))
    else .error (.rightSideRows a.size rightSide.size)
  else .error (.notSquare .solving a.size)

def inverse? (tolerance : α) (a : DenseMatrix α) : Except MatrixFault (DenseMatrix α) :=
  if a.isSquare then
    match a.solve? tolerance (identity a.rows) with
    | .error (.noPivot ..) => .error .singular
    | answer => answer
  else .error (.notSquare .inverse a.size)

def determinant? (tolerance : α) (a : DenseMatrix α) : Except MatrixFault α :=
  if square : a.rows = a.cols then
    .ok ((a.entries.resizeRows square).determinant tolerance)
  else .error (.notSquare .determinant a.size)

/-- Whether the matrix is square and a zero right-hand side has a solution. -/
def canSolve (tolerance : α) (a : DenseMatrix α) : Bool :=
  match a.solve? tolerance ⟨a.rows, 1, .constant 0⟩ with
  | .ok _ => true
  | .error _ => false

end Polyhedra.DenseMatrix
