import Polyhedra.Elimination.System

/-!
# Triangular form without exchanges

Columns are cleared below the diagonal from left to right. A diagonal entry that counts as zero when its
turn comes ends the run, and its column is the answer.
-/

namespace Polyhedra.Grid

variable {α : Type} [Scalar α] {r c : Nat}

/-- A place on the diagonal. -/
abbrev diagonal (p : Fin (min r c)) : Fin r × Fin c :=
  (p.castLE (Nat.min_le_left r c), p.castLE (Nat.min_le_right r c))

def triangulateStep (unit : Bool) (tolerance : α) (g : Grid α r c) (p : Fin (min r c)) :
    Except Nat (Grid α r c) :=
  let (row, col) := diagonal p
  if Scalar.isNegligible tolerance (g.entry row col) then .error p
  else
    let s : System α r c 0 := ⟨g, build fun _ j => j.elim0⟩
    let s := if unit then s.normalize row col else s
    .ok (s.clearBelow row col).left

/-- Triangular form; with `unit`, every pivot is made one before its column is cleared. -/
def triangulate (unit : Bool) (tolerance : α) (g : Grid α r c) : Except Nat (Grid α r c) :=
  (List.finRange (min r c)).foldlM (triangulateStep unit tolerance) g

/-- Triangular form with the pivots as they come. -/
def upperTriangular (tolerance : α) (g : Grid α r c) : Except Nat (Grid α r c) :=
  triangulate false tolerance g

/-- Triangular form with ones for pivots. -/
def unitUpperTriangular (tolerance : α) (g : Grid α r c) : Except Nat (Grid α r c) :=
  triangulate true tolerance g

end Polyhedra.Grid
