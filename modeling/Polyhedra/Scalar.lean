/-!
# Scalars

The arithmetic that elimination runs on. No law is asked of the operations, and the tests answer with a
truth value, so that rounded arithmetic with NaN and infinities is a scalar type as well as the rational
numbers are.
-/

namespace Polyhedra

/-- Numbers with the four operations, a magnitude and three tests. -/
class Scalar (α : Type) extends Zero α, One α, Add α, Sub α, Mul α, Div α, Neg α where
  /-- The magnitude. -/
  abs : α → α
  /-- Equality of values; a NaN differs from itself. -/
  eq : α → α → Bool
  /-- Strictly less. -/
  lt : α → α → Bool
  /-- Less or equal. -/
  le : α → α → Bool

/-- Doubles, rounded to nearest. -/
instance : Scalar Float where
  zero := 0.0
  one := 1.0
  abs := Float.abs
  eq x y := x == y
  lt x y := decide (x < y)
  le x y := decide (x ≤ y)

/-- Exact rational numbers. -/
instance : Scalar Rat where
  zero := 0
  one := 1
  abs x := if x < 0 then -x else x
  eq x y := decide (x = y)
  lt x y := decide (x < y)
  le x y := decide (x ≤ y)

namespace Scalar

variable {α : Type} [Scalar α]

/-- Whether a value counts as zero: its magnitude is at most the tolerance. A NaN never does. -/
def isNegligible (tolerance x : α) : Bool :=
  le (abs x) tolerance

/-- Whether a value may serve as a pivot when another row is looked for: its magnitude exceeds the
tolerance. A NaN never does. -/
def isSizeable (tolerance x : α) : Bool :=
  lt tolerance (abs x)

/-- The sum from left to right, starting at zero. -/
def sum (terms : List α) : α :=
  terms.foldl (· + ·) 0

/-- The product from left to right, starting at one. -/
def product (factors : List α) : α :=
  factors.foldl (· * ·) 1

end Scalar

end Polyhedra
