import Polyhedra.Decimal.Written
import Polyhedra.Decimal.Reading

/-!
# Scalars in text

How a scalar type is written in listings and messages, how it is read, and on which point of the
nine-decimal grid a coordinate lies. Two coordinates on one grid point count as the same.
-/

namespace Polyhedra

open Polyhedra.Decimal

/-- A point of the grid of decimals with nine places: a number of billionths, or an infinity. -/
inductive GridPoint where
  | infinite (negative : Bool)
  | billionths (count : Int)
  deriving DecidableEq, Repr

/-- The grid point nearest to `± num / den`; a half goes to the even neighbour. -/
def GridPoint.ofQuotient (negative : Bool) (num den : Nat) : GridPoint :=
  let count := nearest (num * 1000000000) den
  .billionths (if negative then -(count : Int) else (count : Int))

/-- Scalars that can be written and read. -/
class Numeral (α : Type) where
  /-- The full text, which reads back. -/
  text : α → String
  /-- At most six significant digits, for messages. -/
  brief : α → String
  /-- Read a value. -/
  read? : List Char → Option α
  /-- The nearest grid point; a NaN has none. -/
  gridPoint? : α → Option GridPoint

/-- Doubles are written with the fewest digits that read back. -/
instance : Numeral Float where
  text := shortestText
  brief := briefText
  read? := float?
  gridPoint? x :=
    match Binary64.decode x with
    | .nan => none
    | .infinite negative => some (.infinite negative)
    | .finite negative m e =>
      let q := Binary64.quotient m e
      some (.ofQuotient negative q.1 q.2)

/-- A rational number as a decimal reads; the special values are none. -/
def Decimal.Written.toRat? : Written → Option Rat
  | .decimal negative digits exponent =>
    let q := scaled 10 exponent digits 1
    let r := mkRat q.1 q.2
    some (if negative then -r else r)
  | _ => none

/-- A numerator, and a denominator after a stroke unless it is one. -/
def fractionText (r : Rat) : String :=
  if r.den = 1 then toString r.num else toString r.num ++ "/" ++ toString r.den

/-- A fraction in text: decimals on both sides of a stroke, or a single decimal. -/
def fraction? (text : List Char) : Option Rat :=
  match Text.pieces '/' text with
  | [whole] => (written? whole).bind Written.toRat?
  | [num, den] =>
    (integer? num).bind fun n => (integer? den).bind fun d =>
      if d = 0 then none else some ((n : Rat) / (d : Rat))
  | _ => none

/-- Rational numbers are written as fractions. -/
instance : Numeral Rat where
  text := fractionText
  brief r := briefQuotient (decide (r < 0)) r.num.natAbs r.den
  read? := fraction?
  gridPoint? r := some (.ofQuotient (decide (r < 0)) r.num.natAbs r.den)

end Polyhedra
