import Polyhedra.Elimination.System

/-!
# Solving square systems

Each column is given a pivot of one and cleared below, from left to right, then cleared above, from
right to left; the right-hand sides end up as the solution. Rows are exchanged only when the diagonal
entry counts as zero. A column without a pivot ends the run and is the answer.
-/

namespace Polyhedra

namespace System

variable {α : Type} [Scalar α] {n k : Nat}

/-- Bring a pivot to the diagonal if the entry there counts as zero. -/
def pivot (tolerance : α) (s : System α n n k) (p : Fin n) : Except Nat (System α n n k) :=
  if Scalar.isNegligible tolerance (s.left.entry p p) then
    match s.left.findPivot tolerance p (p + 1) with
    | some i => .ok (s.swapRows p i)
    | none => .error p
  else .ok s

def reduceStep (tolerance : α) (s : System α n n k) (p : Fin n) : Except Nat (System α n n k) :=
  (s.pivot tolerance p).map fun s => (s.normalize p p).clearBelow p p

/-- The downward run: ones on the diagonal, zeros beneath it. -/
def reduce (tolerance : α) (s : System α n n k) : Except Nat (System α n n k) :=
  (List.finRange n).foldlM (reduceStep tolerance) s

end System

namespace Grid

variable {α : Type} [Scalar α] {n k : Nat}

/-- The solution for every column of right-hand sides, or the first column without a pivot. -/
def solve (tolerance : α) (g : Grid α n n) (rightSide : Grid α n k) : Except Nat (Grid α n k) :=
  (System.reduce tolerance ⟨g, rightSide⟩).map fun s => s.backSubstitute.right

/-- The inverse, as the solution for the columns of the identity. -/
def inverse (tolerance : α) (g : Grid α n n) : Except Nat (Grid α n n) :=
  g.solve tolerance identity

end Grid

end Polyhedra
