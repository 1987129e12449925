import Polyhedra.Elimination.Triangular

/-!
# Triangular factors

A grid whose rows may be exchanged is the product of a unit lower triangular and an upper triangular
grid. Rows are exchanged only when the diagonal entry counts as zero; the first row beneath it with a
sizeable entry then comes up, together with the multiples already recorded for it.
-/

namespace Polyhedra

/-- The two factors, the place that every row had at first, and how many exchanges were made. -/
structure Factors (α : Type) (r c : Nat) where
  lower : Grid α r r
  upper : Grid α r c
  order : Vector (Fin r) r
  swaps : Nat

namespace Factors

variable {α : Type} [Scalar α] {r c n : Nat}

def start (g : Grid α r c) : Factors α r c :=
  ⟨.identity, g, Vector.ofFn id, 0⟩

/-- Bring a row up to the pivot. Of the lower factor only the columns before the pivot move along. -/
def exchange (f : Factors α r c) (pivot row : Fin r) : Factors α r c :=
  let moved := f.lower.swapRows pivot row
  { lower := .build fun i j => if j < pivot then moved.entry i j else f.lower.entry i j
    upper := f.upper.swapRows pivot row
    order := Vector.ofFn fun i => f.order.get (if i = pivot then row else if i = row then pivot else i)
    swaps := f.swaps + 1 }

/-- Clear a column beneath its pivot and record the multiples taken. -/
def clear (f : Factors α r c) (row : Fin r) (col : Fin c) : Factors α r c :=
  let multipliers := f.upper.multipliersBelow row col
  { f with
    lower := .build fun i j =>
      if row < i ∧ j.val = col.val then (multipliers.get i).getD 0 else f.lower.entry i j
    upper := f.upper.subtractMultiples row col multipliers }

def step (tolerance : α) (f : Factors α r c) (p : Fin (min r c)) : Except Nat (Factors α r c) :=
  let (row, col) := Grid.diagonal p
  let f :=
    if Scalar.isNegligible tolerance (f.upper.entry row col) then
      match f.upper.findPivot tolerance col (p + 1) with
      | some i => f.exchange row i
      | none => f
    else f
  if Scalar.isNegligible tolerance (f.upper.entry row col) then .error p
  else .ok (f.clear row col)

/-- The row exchanges as a grid: row `i` has its one where row `i` came from. -/
def permutation (f : Factors α r c) : Grid α r r :=
  .build fun i j => if f.order.get i = j then 1 else 0

/-- The signed product of both diagonals. -/
def determinant (f : Factors α n n) : α :=
  let d := Scalar.product ((List.finRange n).map fun i => f.upper.entry i i) *
    Scalar.product ((List.finRange n).map fun i => f.lower.entry i i)
  if f.swaps % 2 = 1 then -d else d

end Factors

namespace Grid

variable {α : Type} [Scalar α] {r c n : Nat}

/-- The triangular factors, or the first column without a pivot. -/
def factor (tolerance : α) (g : Grid α r c) : Except Nat (Factors α r c) :=
  (List.finRange (min r c)).foldlM (Factors.step tolerance) (Factors.start g)

/-- The determinant from the factors; zero where there are none. -/
def determinant (tolerance : α) (g : Grid α n n) : α :=
  match g.factor tolerance with
  | .ok f => f.determinant
  | .error _ => 0

end Grid

end Polyhedra
