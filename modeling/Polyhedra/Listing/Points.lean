import Polyhedra.Listing.Entry

/-!
# Vertices and optimum of a listing

The feasible points of a listing without repetitions, in the order of their first occurrence, and its
first optimal entry. Points are the same when all their coordinates lie on the same grid points; a point
with a NaN is the same as no other.
-/

namespace Polyhedra.Listing

variable {α : Type}

/-- The grid points of all coordinates; none if some coordinate has none. -/
def gridKey? [Numeral α] (point : List α) : Option (List GridPoint) :=
  point.mapM Numeral.gridPoint?

/-- Drop every point that is the same as an earlier one. `seen` holds the keys of the points before. -/
def distinctPoints [Numeral α] (seen : List (List GridPoint)) : List (List α) → List (List α)
  | [] => []
  | point :: rest =>
    match gridKey? point with
    | none => point :: distinctPoints seen rest
    | some key =>
      if seen.contains key then distinctPoints seen rest
      else point :: distinctPoints (key :: seen) rest

/-- The vertices that the feasible entries reach. -/
def feasiblePoints [Numeral α] (entries : List (Entry α)) : List (List α) :=
  distinctPoints [] ((entries.filter Entry.isFeasible).map Entry.point)

def optimal? (entries : List (Entry α)) : Option (Entry α) :=
  entries.find? Entry.isOptimal

/-- The value of the first optimal entry, in the sense of a problem. The outer answer is missing when a
value that is not there would have to be negated. -/
def optimalValue? [Scalar α] (p : Problem α) (entries : List (Entry α)) : Option (Option α) :=
  match optimal? entries with
  | none => some none
  | some e =>
    match e.zeta, p.sense with
    | some zeta, _ => some (some (p.objectiveValue zeta))
    | none, .max => some none
    | none, .min => none

def isUnbounded (entries : List (Entry α)) : Bool :=
  entries.any Entry.isUnbounded

end Polyhedra.Listing
