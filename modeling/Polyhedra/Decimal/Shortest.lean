import Polyhedra.Decimal.Binary64

/-!
# The shortest decimal of a double

Among the decimals that read back as a given double, take those with the fewest digits, and of them
the nearest to the double; of two equally near, the one with the even last digit. It is enough to try
the two neighbours of the double on each decimal grid in turn.
-/

namespace Polyhedra.Decimal

/-- The values that round to `significand * 2 ^ exponent`: numerators of the two ends over a common
denominator, and whether the ends belong to it. -/
structure RoundingInterval where
  low : Nat
  high : Nat
  den : Nat
  closed : Bool

/-- The interval reaches half a gap to either side; below a power of two the gap is halved. -/
def RoundingInterval.of (significand : Nat) (exponent : Int) : RoundingInterval :=
  let narrow := significand = Binary64.hiddenBit ∧ Binary64.leastExponent < exponent
  let q := scaled 2 (exponent - 2) 1 1
  { low := (4 * significand - (if narrow then 1 else 2)) * q.1
    high := (4 * significand + 2) * q.1
    den := q.2
    closed := significand % 2 = 0 }

/-- Whether `num / den` rounds back. -/
def RoundingInterval.holds (i : RoundingInterval) (num den : Nat) : Bool :=
  if i.closed then i.low * den ≤ num * i.den && num * i.den ≤ i.high * den
  else i.low * den < num * i.den && num * i.den < i.high * den

/-- The decimal of at most `count` digits that reads back, if one of the neighbours does: `(d, e)` for
`d` units of `10 ^ (e - count + 1)`, where `10 ^ e` is the size of the double. -/
def onGrid? (i : RoundingInterval) (num den : Nat) (count : Nat) : Option (Nat × Int) :=
  let e := decimalExponent num den
  let unit := e - (count : Int) + 1
  let q := scaled 10 (-unit) num den
  let below := q.1 / q.2
  let reads (d : Nat) : Bool :=
    let v := scaled 10 unit d 1
    i.holds v.1 v.2
  let near := nearest q.1 q.2
  let far := if near = below then below + 1 else below
  if reads near then some (near, unit)
  else if reads far then some (far, unit)
  else none

/-- The first grid with a hit, trying `count`, `count + 1`, … digits. -/
def firstGrid (i : RoundingInterval) (num den : Nat) : Nat → Nat → Nat × Int
  | 0, count => (roundDecimal count num den).map id (· - (count : Int) + 1)
  | fuel + 1, count =>
    match onGrid? i num den count with
    | some hit => hit
    | none => firstGrid i num den fuel (count + 1)

/-- A trailing zero counts for nothing: it moves into the power of ten. -/
def dropZeros : Nat → Nat × Int → Nat × Int
  | 0, d => d
  | fuel + 1, (d, unit) =>
    if d ≠ 0 ∧ d % 10 = 0 then dropZeros fuel (d / 10, unit + 1) else (d, unit)

/-- Digits `d` and unit `u` of the shortest decimal `d * 10 ^ u` of a positive finite double. Seventeen
digits always suffice. -/
def shortest (significand : Nat) (exponent : Int) : Nat × Int :=
  let q := Binary64.quotient significand exponent
  dropZeros 17 (firstGrid (.of significand exponent) q.1 q.2 16 1)

end Polyhedra.Decimal
