import Polyhedra.Decimal.Written
import Polyhedra.Elimination.Scaled
import Polyhedra.Extended
import Polyhedra.Verification

/-!
# Verification with decimal digits

The wider arithmetic is extended arithmetic with as many binary digits as a number of decimal digits asks
for. Its solver is a parameter still; the one in use works with ten digits more. A dictionary of doubles may
have been built for another problem, and so many digits may be asked for that no quotient can be written
down: then there is no answer.
-/

namespace Polyhedra

namespace Verification

variable {m n k : Nat}

/-- The solver for numbers of so many binary digits, with quotients of its own. -/
def digitSolver (bits : Nat) (quotient : Extended bits → Extended bits → Except Unsolved (Extended bits)) :
    ScaledSolver (Extended bits) :=
  { total := Extended.total, quotient, fraction := .power (1 - (bits : Int)) }

/-- Solve with ten more binary digits than are used elsewhere. -/
def guardedSolver (bits : Nat) : LinearSolver (Extended bits) := fun _ g b =>
  let solver := digitSolver (bits + 10) fun x y => .ok (x / y)
  (solver.solve (g.map Extended.recast) (b.map Extended.recast)).toOption.map fun x => x.map Extended.recast

/-- Verify a report about a program of doubles with the precision of a number of decimal digits. -/
def verifyDigits (digits : Int) (solve : LinearSolver (Extended (bitsForDigits digits)))
    (tolerance residualTolerance : Float) (p : Program Float m n) (r : Option (BasisReport Float m k)) :
    Check (Extended (bitsForDigits digits)) :=
  verify Extended.ofFloat solve (.threshold tolerance) (.threshold residualTolerance) p r

/-- Why a dictionary cannot be verified: it needs a column that the problem does not have, or numbers of
more digits than there can be. -/
inductive Fault where
  | foreign
  | excess (cause : Excess)
  deriving DecidableEq, Repr

/-- A quotient that does not take all the digits there are. -/
def shortQuotient {bits : Nat} (x y : Extended bits) : Except Unsolved (Extended bits) :=
  if x.isLongQuotient y then .error .unwritable else .ok (x / y)

/-- Whether verifying a basis takes a quotient that uses all of so many digits. Places of the basis without
an index are zero. -/
def takesLongQuotient (bits : Nat) (p : Program Float m n) (basic : List Int) : Bool :=
  let wide : Program (Extended bits) m n := widen Extended.ofFloat p
  let basis : Grid (Extended bits) m m := .build fun i place =>
    match basic[place.val]? with
    | some index => wide.augmented i index.toNat
    | none => 0
  let solver := digitSolver bits shortQuotient
  let outcome := do
    discard (solver.solve basis wide.bounds)
    solver.solve basis.transpose (wide.costs basic m)
  outcome matches .error .unwritable

/-- What keeps a dictionary with a basis from being verified before anything is solved. -/
def fault? (digits : Int) (p : Program Float m n) (d : Dictionary Float) : Option Fault :=
  if !(binaryMeasure digits).isFinite then some (.excess .uncountable)
  else if m < d.numConstraints || !areInside (n + m) d.basic then some .foreign
  else
    let bits := bitsForDigits digits + 10
    (digitExcess? bits).bind fun cause =>
      if takesLongQuotient bits p d.basic then some (.excess cause) else none

/-- Verify a dictionary, built for a problem or for another one. -/
def verifyDictionary? (digits : Int) (solve : LinearSolver (Extended (bitsForDigits digits)))
    (tolerance residualTolerance : Float) (p : Problem Float) (d : Dictionary Float) :
    Except Fault (Check (Extended (bitsForDigits digits))) :=
  if !d.isBasic then .ok .noBasis
  else if p.numConstraints = 0 then .ok .noConstraints
  else
    match fault? digits p.program d with
    | some fault => .error fault
    | none =>
      match verifyForeign? Extended.ofFloat solve (.threshold tolerance) (.threshold residualTolerance)
          p.program d with
      | some check => .ok check
      | none => .error .foreign

end Verification

def residualText {bits : Nat} (x : Extended bits) : String :=
  Decimal.scientificText x.toFloat

end Polyhedra
