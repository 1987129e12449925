import Polyhedra.Grid

/-!
# Steps of elimination

A system is a grid of coefficients with a grid of right-hand sides beside it; a row of the one belongs to
the row of the other. The steps are: find a row that can serve as pivot, exchange rows, make a pivot one,
and clear its column below or above it. What is done to the right-hand sides is decided by the
coefficients alone.
-/

namespace Polyhedra

/-- Coefficients and right-hand sides. -/
structure System (α : Type) (r c k : Nat) where
  left : Grid α r c
  right : Grid α r k

/-- The first row from `start` on whose entry in a column exceeds the tolerance. -/
def Grid.findPivot {α : Type} [Scalar α] {r c : Nat} (g : Grid α r c) (tolerance : α) (col : Fin c)
    (start : Nat) : Option (Fin r) :=
  (List.finRange r).find? fun i => decide (start ≤ i) && Scalar.isSizeable tolerance (g.entry i col)

/-- The multiples of a pivot row to be taken from the rows below it: entry over pivot, and nothing for
a row whose entry is zero already. -/
def Grid.multipliersBelow {α : Type} [Scalar α] {r c : Nat} (g : Grid α r c) (row : Fin r)
    (col : Fin c) : Vector (Option α) r :=
  Vector.ofFn fun i =>
    if row < i ∧ Scalar.eq (g.entry i col) 0 = false then some (g.entry i col / g.entry row col)
    else none

/-- The multiples of a pivot row to be taken from the rows above it, the pivot being one. -/
def Grid.multipliersAbove {α : Type} [Scalar α] {r c : Nat} (g : Grid α r c) (row : Fin r)
    (col : Fin c) : Vector (Option α) r :=
  Vector.ofFn fun i =>
    if i < row ∧ Scalar.eq (g.entry i col) 0 = false then some (g.entry i col) else none

namespace System

variable {α : Type} [Scalar α] {r c k n : Nat}

def swapRows (s : System α r c k) (i j : Fin r) : System α r c k :=
  ⟨s.left.swapRows i j, s.right.swapRows i j⟩

/-- Divide a row by its pivot, from the pivot on, unless the pivot is one already. -/
def normalize (s : System α r c k) (row : Fin r) (col : Fin c) : System α r c k :=
  let pivot := s.left.entry row col
  if Scalar.eq pivot 1 then s
  else ⟨s.left.divideRow row col pivot, s.right.divideRow row 0 pivot⟩

/-- Clear a column beneath a pivot. Columns before the pivot are left alone. -/
def clearBelow (s : System α r c k) (row : Fin r) (col : Fin c) : System α r c k :=
  let multipliers := s.left.multipliersBelow row col
  ⟨s.left.subtractMultiples row col multipliers, s.right.subtractMultiples row 0 multipliers⟩

/-- Clear a column above a pivot that is one. -/
def clearAbove (s : System α r c k) (row : Fin r) (col : Fin c) : System α r c k :=
  let multipliers := s.left.multipliersAbove row col
  ⟨s.left.subtractMultiples row 0 multipliers, s.right.subtractMultiples row 0 multipliers⟩

/-- Clear every column above the diagonal, the last column first. -/
def backSubstitute (s : System α n n k) : System α n n k :=
  (List.finRange n).reverse.foldl (fun s p => s.clearAbove p p) s

end System

end Polyhedra
