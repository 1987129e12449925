import Polyhedra.Grid

/-!
# Elimination with scaled pivots

A square system is solved by taking as pivot of a column the entry that is greatest in proportion to the
size of its row. How many numbers are added up and how one is divided by another belongs to the solver: a
sum may be rounded once or at every step, and there may be quotients that cannot be written down.
-/

namespace Polyhedra

/-- Why a system is not solved: it is singular, or a quotient cannot be written down. -/
inductive Unsolved where
  | singular
  | unwritable
  deriving DecidableEq, Repr

/-- How systems are solved. Row sizes and pivots must exceed a fraction of the greatest column sum. -/
structure ScaledSolver (ω : Type) where
  total : List ω → ω
  quotient : ω → ω → Except Unsolved ω
  fraction : ω

namespace ScaledSolver

variable {ω : Type} [Scalar ω] {n : Nat}

/-- The greatest column sum of magnitudes; of columns that do not compare, the first. -/
def columnNorm (s : ScaledSolver ω) (g : Grid ω n n) : ω :=
  match (List.finRange n).map fun j => s.total ((List.finRange n).map fun i => Scalar.abs (g.entry i j)) with
  | [] => 0
  | first :: others => others.foldl (fun best x => if Scalar.lt best x then x else best) first

/-- The sum of magnitudes of a row from a column on. -/
def rowSize (s : ScaledSolver ω) (g : Grid ω n n) (i j : Fin n) : ω :=
  s.total (((List.finRange n).filter fun l => j ≤ l).map fun l => Scalar.abs (g.entry i l))

/-- A number that is too small to divide by makes a system singular. -/
def needSizeable (threshold x : ω) : Except Unsolved Unit :=
  if Scalar.le (Scalar.abs x) threshold || Scalar.eq x 0 then .error .singular else .ok ()

/-- The first row, from the diagonal down, whose entry is greatest in proportion to the size of the row. -/
def pivot (s : ScaledSolver ω) (threshold : ω) (g : Grid ω n n) (j : Fin n) : Except Unsolved (Fin n) := do
  let best ← ((List.finRange n).filter fun i => j ≤ i).foldlM
    (fun (best : ω × Option (Fin n)) i => do
      let size := s.rowSize g i j
      needSizeable threshold size
      let share := (← s.quotient 1 size) * Scalar.abs (g.entry i j)
      return if Scalar.lt best.1 share then (share, some i) else best)
    (0, none)
  match best.2 with
  | none => throw .singular
  | some i => return i

/-- The multiples of the pivot row that clear a column below its pivot. -/
def factors (s : ScaledSolver ω) (g : Grid ω n n) (j : Fin n) : Except Unsolved (Vector ω n) :=
  Vector.ofFnM fun i => if j < i then s.quotient (g.entry i j) (g.entry j j) else .ok 0

/-- Take multiples of the pivot row from the rows below; entries left of the next column are not used
again. -/
def cleared (g : Grid ω n n) (b : Vector ω n) (j : Fin n) (factors : Vector ω n) : Grid ω n n × Vector ω n :=
  (.build fun i l => if j < i ∧ j < l then g.entry i l - factors.get i * g.entry j l else g.entry i l,
    Vector.ofFn fun i => if j < i then b.get i - factors.get i * b.get j else b.get i)

def step (s : ScaledSolver ω) (threshold : ω) (system : Grid ω n n × Vector ω n) (j : Fin n) :
    Except Unsolved (Grid ω n n × Vector ω n) := do
  let (g, b) := system
  let i ← s.pivot threshold g j
  let g := g.swapRows j i
  let b : Vector ω n := Vector.ofFn fun a => b.get (if a = j then i else if a = i then j else a)
  needSizeable threshold (g.entry j j)
  return cleared g b j (← s.factors g j)

/-- Solve a triangular system for one unknown, those after it being known. -/
def backStep (s : ScaledSolver ω) (g : Grid ω n n) (x : Vector ω n) (i : Fin n) :
    Except Unsolved (Vector ω n) := do
  let rest := ((List.finRange n).filter fun l => i < l).foldl
    (fun rest l => rest - g.entry i l * x.get l) (x.get i)
  return x.set i.val (← s.quotient rest (g.entry i i)) i.isLt

/-- Solve a square system. A single equation needs only a coefficient that is not zero. -/
def solve (s : ScaledSolver ω) (g : Grid ω n n) (b : Vector ω n) : Except Unsolved (Vector ω n) := do
  let threshold := s.columnNorm g * s.fraction
  let (g, b) ← ((List.finRange n).filter fun j => j.val + 1 < n).foldlM (s.step threshold) (g, b)
  for j in (List.finRange n).filter fun j => j.val + 1 = n do
    if n = 1 then
      if Scalar.eq (g.entry j j) 0 then throw .singular
    else needSizeable threshold (g.entry j j)
  (List.finRange n).reverse.foldlM (s.backStep g) b

end ScaledSolver

end Polyhedra
