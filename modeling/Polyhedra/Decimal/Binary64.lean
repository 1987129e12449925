import Polyhedra.Decimal.Rounding

/-!
# Doubles as exact values

A double is a sign, a significand and a power of two, or one of the special values. `decode` reads
that off the bits and `encode` goes back, rounding an exact quotient to the nearest double.
-/

namespace Polyhedra.Decimal

/-- What a double stands for; a finite one is `± significand * 2 ^ exponent`. -/
inductive Binary64 where
  | nan
  | infinite (negative : Bool)
  | finite (negative : Bool) (significand : Nat) (exponent : Int)
  deriving DecidableEq, Repr

namespace Binary64

def hiddenBit : Nat := 4503599627370496

/-- The exponent of the subnormal doubles, below which no double reaches. -/
def leastExponent : Int := -1074

def decode (x : Float) : Binary64 :=
  let bits := x.toBits.toNat
  let negative := decide (bits / (2048 * hiddenBit) = 1)
  let field := bits / hiddenBit % 2048
  let fraction := bits % hiddenBit
  if field = 2047 then
    if fraction = 0 then .infinite negative else .nan
  else if field = 0 then .finite negative fraction leastExponent
  else .finite negative (hiddenBit + fraction) ((field : Int) - 1075)

/-- The double with the given sign, biased exponent field and fraction. -/
def ofFields (negative : Bool) (field fraction : Nat) : Float :=
  Float.ofBits (UInt64.ofNat ((if negative then 2048 * hiddenBit else 0) + field * hiddenBit + fraction))

def infinity (negative : Bool) : Float := ofFields negative 2047 0

def zero (negative : Bool) : Float := ofFields negative 0 0

def quietNaN : Float := ofFields false 2047 (hiddenBit / 2)

/-- The double nearest to `± num / den`; too large a value becomes infinite. -/
def encode (negative : Bool) (num den : Nat) : Float :=
  if num = 0 then zero negative
  else
    let (m, e) := roundBinary 53 (some leastExponent) num den
    let (m, e) := if m = 2 * hiddenBit then (hiddenBit, e + 1) else (m, e)
    if m < hiddenBit then ofFields negative 0 m
    else
      let field := e + 1075
      if 2047 ≤ field then infinity negative
      else ofFields negative field.toNat (m - hiddenBit)

/-- The double nearest to `± digits * 10 ^ exponent`. Exponents far outside the range of doubles are
settled without working out the power. -/
def ofDecimal (negative : Bool) (digits : Nat) (exponent : Int) : Float :=
  if digits = 0 then zero negative
  else
    let size := exponent + digitCount digits
    if 400 < size then infinity negative
    else if size < -400 then zero negative
    else
      let q := scaled 10 exponent digits 1
      encode negative q.1 q.2

/-- The magnitude of a finite value as a quotient. -/
def quotient (significand : Nat) (exponent : Int) : Nat × Nat :=
  scaled 2 exponent significand 1

/-- The exact value of a finite double as a rational number. -/
def toRat? (x : Float) : Option Rat :=
  match decode x with
  | .finite negative m e =>
    let q := quotient m e
    let r := mkRat q.1 q.2
    some (if negative then -r else r)
  | _ => none

/-- The double nearest to a rational number. -/
def ofRat (r : Rat) : Float :=
  encode (decide (r < 0)) r.num.natAbs r.den

end Binary64

end Polyhedra.Decimal
