/-!
# Rounding a quotient

Quotients of natural numbers are rounded to the nearest integer, to a given number of binary digits,
or to a given number of decimal digits. A tie always goes to the even neighbour.
-/

namespace Polyhedra.Decimal

/-- The integer nearest to `num / den`; of two equally near, the even one. -/
def nearest (num den : Nat) : Nat :=
  let q := num / den
  let r := num % den
  if den < 2 * r ∨ (2 * r = den ∧ q % 2 = 1) then q + 1 else q

/-- `num / den * base ^ shift` as a quotient. -/
def scaled (base : Nat) (shift : Int) (num den : Nat) : Nat × Nat :=
  if 0 ≤ shift then (num * Nat.pow base shift.toNat, den)
  else (num, den * Nat.pow base (-shift).toNat)

/-- The greatest `e` with `2 ^ e ≤ num / den`, for a positive quotient. -/
def binaryExponent (num den : Nat) : Int :=
  let e : Int := (Nat.log2 num : Int) - (Nat.log2 den : Int)
  let q := scaled 2 (-e) num den
  if q.1 < q.2 then e - 1 else e

def digitCount (n : Nat) : Nat :=
  (Nat.toDigits 10 n).length

/-- The greatest `e` with `10 ^ e ≤ num / den`, for a positive quotient. -/
def decimalExponent (num den : Nat) : Int :=
  let e : Int := (digitCount num : Int) - (digitCount den : Int)
  let q := scaled 10 (-e) num den
  if q.1 < q.2 then e - 1 else e

/-- A positive quotient rounded to `bits` binary digits: `(m, e)` for `m * 2 ^ e`. Where `least` is
given the exponent is at least that, at the cost of digits. -/
def roundBinary (bits : Nat) (least : Option Int) (num den : Nat) : Nat × Int :=
  let e := binaryExponent num den - (bits : Int) + 1
  let e := match least with
    | some low => max low e
    | none => e
  let q := scaled 2 (-e) num den
  (nearest q.1 q.2, e)

/-- A positive quotient rounded to `count` decimal digits: `(d, e)` where `d` has exactly `count`
digits and the first of them counts units of `10 ^ e`. -/
def roundDecimal (count : Nat) (num den : Nat) : Nat × Int :=
  let e := decimalExponent num den
  let q := scaled 10 ((count : Int) - 1 - e) num den
  let d := nearest q.1 q.2
  if d = Nat.pow 10 count then (d / 10, e + 1) else (d, e)

end Polyhedra.Decimal
