import Polyhedra.Decimal.Binary64
import Polyhedra.Scalar

/-!
# Extended arithmetic

Numbers `significand * 2 ^ exponent` with a chosen number of binary digits and no limit on the exponent,
besides the infinities and NaN. Every operation but a change of sign rounds its exact result to the nearest
number, ties to even, and so are doubles taken over; a sum of many terms is rounded once. Thresholds are
held against numbers as they are, without rounding. There is a single zero.
-/

namespace Polyhedra

open Polyhedra.Decimal

/-- A number of at most `bits` binary digits. Numbers taken over from elsewhere may have more. -/
inductive Extended (bits : Nat) where
  | nan
  | infinite (negative : Bool)
  | finite (significand exponent : Int)
  deriving DecidableEq, Repr

namespace Extended

variable {bits : Nat}

/-- An exact value rounded to the digits there are. -/
def rounded (significand exponent : Int) : Extended bits :=
  if significand = 0 then finite 0 0
  else
    let excess := Nat.log2 significand.natAbs + 1 - bits
    if excess = 0 then finite significand exponent
    else
      let m : Int := nearest significand.natAbs (Nat.pow 2 excess)
      finite (if significand < 0 then -m else m) (exponent + (excess : Int))

/-- The significand that belongs to a smaller exponent. -/
def aligned (significand exponent least : Int) : Int :=
  significand * (Nat.pow 2 (exponent - least).toNat : Nat)

def isNegative : Extended bits → Bool
  | nan => false
  | infinite negative => negative
  | finite m _ => decide (m < 0)

def isZero : Extended bits → Bool
  | finite m _ => decide (m = 0)
  | _ => false

def neg : Extended bits → Extended bits
  | nan => nan
  | infinite negative => infinite (!negative)
  | finite m e => finite (-m) e

def abs : Extended bits → Extended bits
  | nan => nan
  | infinite _ => infinite false
  | finite m e => rounded (m.natAbs : Int) e

def add : Extended bits → Extended bits → Extended bits
  | finite m e, finite m' e' =>
    let least := min e e'
    if m = 0 then rounded m' e'
    else if m' = 0 then rounded m e
    else rounded (aligned m e least + aligned m' e' least) least
  | infinite s, infinite s' => if s = s' then infinite s else nan
  | infinite s, finite _ _ => infinite s
  | finite _ _, infinite s => infinite s
  | nan, _ => nan
  | _, nan => nan

def sub (x y : Extended bits) : Extended bits :=
  match y with
  | nan => nan
  | infinite negative => add x (infinite (!negative))
  | finite m e => add x (finite (-m) e)

def mul (x y : Extended bits) : Extended bits :=
  match x, y with
  | nan, _ => nan
  | _, nan => nan
  | finite m e, finite m' e' => rounded (m * m') (e + e')
  | x, y => if x.isZero || y.isZero then nan else infinite (x.isNegative != y.isNegative)

def div (x y : Extended bits) : Extended bits :=
  match x, y with
  | nan, _ => nan
  | _, nan => nan
  | infinite _, infinite _ => nan
  | infinite s, finite m _ => infinite (s != decide (m < 0))
  | finite _ _, infinite _ => finite 0 0
  | finite m e, finite m' e' =>
    if m' = 0 then (if m = 0 then nan else infinite (decide (m < 0)))
    else if m = 0 then finite 0 0
    else if m'.natAbs = Nat.pow 2 (Nat.log2 m'.natAbs) then
      rounded (if m' < 0 then -m else m) (e - e' - (Nat.log2 m'.natAbs : Int))
    else
      let (q, shift) := roundBinary bits none m.natAbs m'.natAbs
      finite (if (m < 0) ≠ (m' < 0) then -(q : Int) else (q : Int)) (e - e' + shift)

/-- Whether a quotient may use all the digits there are: one of two numbers, unless the first is zero or the
second a power of two. -/
def isLongQuotient : Extended bits → Extended bits → Bool
  | finite m _, finite m' _ =>
    m != 0 && m' != 0 && m'.natAbs != Nat.pow 2 (Nat.log2 m'.natAbs)
  | _, _ => false

/-- The exponent of the leading binary digit of a number that is not zero. -/
def leading (significand exponent : Int) : Int :=
  (Nat.log2 significand.natAbs : Int) + exponent

/-- Whether two finite numbers stand in a relation between integers that depends on their order only. The
significands are brought to one exponent only for numbers of one sign and one size. -/
def compareFinite (related : Int → Int → Bool) (m e m' e' : Int) : Bool :=
  if m = 0 ∨ m' = 0 ∨ (m < 0) ≠ (m' < 0) then related m m'
  else if leading m e = leading m' e' then
    let least := min e e'
    related (aligned m e least) (aligned m' e' least)
  else if m < 0 then related (leading m' e') (leading m e)
  else related (leading m e) (leading m' e')

/-- Whether two numbers that are not NaN stand in a relation that depends on their order only. -/
def compare (related : Int → Int → Bool) : Extended bits → Extended bits → Bool
  | nan, _ => false
  | _, nan => false
  | finite m e, finite m' e' => compareFinite related m e m' e'
  | infinite s, infinite s' => related (if s then -1 else 1) (if s' then -1 else 1)
  | infinite s, finite _ _ => related (if s then -1 else 1) 0
  | finite _ _, infinite s => related 0 (if s then -1 else 1)

/-! ### Sums of many terms -/

/-- The number of binary digits; zero has none. -/
def digitCount (significand : Int) : Nat :=
  if significand = 0 then 0 else Nat.log2 significand.natAbs + 1

/-- The number of factors of two in a number that is not zero. -/
def trailingZeros (significand : Int) : Nat :=
  Nat.log2 (significand.natAbs ^^^ (significand.natAbs - 1))

/-- Add a number to an exact sum, given as its significand and exponent. Of the two, one whose leading digit
lies more than `room` places below the last digit of the other is dropped. -/
def gather (room : Nat) (total : Int × Int) (significand exponent : Int) : Int × Int :=
  if significand = 0 then total
  else
    let zeros := trailingZeros significand
    let m : Int := significand / (Nat.pow 2 zeros : Nat)
    let e := exponent + (zeros : Int)
    if total.2 ≤ e then
      if (room : Int) < e - total.2 - digitCount total.1 then (m, e)
      else (total.1 + aligned m e total.2, total.2)
    else if total.1 = 0 then (m, e)
    else if (room : Int) < total.2 - e - digitCount m then total
    else (aligned total.1 total.2 e + m, e)

/-- A sum that is rounded once. Of parts that lie more than twice the digits apart the smaller is dropped. -/
def total (terms : List (Extended bits)) : Extended bits :=
  let sum := terms.foldl (fun (sum : Int × Int) term =>
    match term with
    | finite m e => gather (2 * bits) sum m e
    | _ => sum) (0, 0)
  (terms.filter fun term => !(term matches finite _ _)).foldl add (rounded sum.1 sum.2)

/-! ### Doubles -/

/-- The exact value of a double, whatever number of digits it has. -/
def threshold (x : Float) : Extended bits :=
  match Binary64.decode x with
  | .nan => nan
  | .infinite negative => infinite negative
  | .finite negative m e =>
    if m = 0 then finite 0 0 else finite (if negative then -(m : Int) else (m : Int)) e

/-- The number nearest to a double. -/
def ofFloat (x : Float) : Extended bits :=
  match (threshold x : Extended bits) with
  | finite m e => rounded m e
  | special => special

/-- The nearest double to a number that has no more digits than doubles have. -/
def encoded : Extended bits → Float
  | nan => Binary64.quietNaN
  | infinite negative => Binary64.infinity negative
  | finite m e =>
    if m = 0 then 0.0
    else
      let size := (Nat.log2 m.natAbs : Int) + e
      if 1100 < size then Binary64.infinity (decide (m < 0))
      else if size < -1200 then Binary64.zero (decide (m < 0))
      else
        let q := scaled 2 e m.natAbs 1
        Binary64.encode (decide (m < 0)) q.1 q.2

/-- A number as a double. It is rounded to the digits of doubles first, and a number that is too small to
have them all is rounded again. -/
def toFloat : Extended bits → Float
  | finite m e => (rounded m e : Extended 53).encoded
  | special => special.encoded

/-- The same number among those of another precision, not rounded. -/
def recast {bits' : Nat} : Extended bits → Extended bits'
  | nan => nan
  | infinite negative => infinite negative
  | finite m e => finite m e

def power (exponent : Int) : Extended bits := finite 1 exponent

instance : Scalar (Extended bits) where
  zero := finite 0 0
  one := finite 1 0
  add := add
  sub := sub
  mul := mul
  div := div
  neg := neg
  abs := abs
  eq := compare (· == ·)
  lt := compare (fun m m' => decide (m < m'))
  le := compare (fun m m' => decide (m ≤ m'))

end Extended

/-- One more than a number of decimal digits, times the binary logarithm of ten. -/
def binaryMeasure (digits : Int) : Float :=
  Float.ofInt (digits + 1) * 3.3219280948873626

/-- The binary digits that stand for a number of decimal digits: their binary measure to the nearest
integer, and at least one. -/
def bitsForDigits (digits : Int) : Nat :=
  match Binary64.decode (binaryMeasure digits) with
  | .finite false m e =>
    let q := Binary64.quotient m e
    max 1 (nearest q.1 q.2)
  | _ => 1

end Polyhedra
