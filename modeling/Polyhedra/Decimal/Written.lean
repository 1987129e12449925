import Polyhedra.Decimal.Shortest

/-!
# Written decimals

Three ways to write a double. `shortestText` has the fewest digits that read back, `briefText` at most
six significant digits, and `scientificText` always four. The first two write sizes from `10 ^ -4` up to
a limit of their own without an exponent, and all three write exponents with a sign and at least two
digits.
-/

namespace Polyhedra.Decimal

def digitChars (n : Nat) : List Char :=
  Nat.toDigits 10 n

/-- Digits without an exponent, the first of them counting units of `10 ^ e`. -/
def plain (digits : List Char) (e : Int) : List Char :=
  if e < 0 then '0' :: '.' :: (List.replicate (-e - 1).toNat '0' ++ digits)
  else
    let whole := e.toNat + 1
    if digits.length ≤ whole then digits ++ List.replicate (whole - digits.length) '0'
    else digits.take whole ++ '.' :: digits.drop whole

/-- Digits with an exponent: one digit before the point. -/
def withExponent (digits : List Char) (e : Int) : List Char :=
  let mantissa := match digits with
    | [] => []
    | [d] => [d]
    | d :: rest => d :: '.' :: rest
  let size := digitChars e.natAbs
  mantissa ++ 'e' :: (if e < 0 then '-' else '+') ::
    (List.replicate (2 - size.length) '0' ++ size)

def dropTrailingZeros (digits : List Char) : List Char :=
  (digits.reverse.dropWhile (· == '0')).reverse

def signed (negative : Bool) (text : List Char) : String :=
  String.ofList (if negative then '-' :: text else text)

/-- The text of the values that are not numbers or not finite, or what `finite` makes of the others. -/
def writeWith (finite : Bool → Nat → Int → String) (x : Float) : String :=
  match Binary64.decode x with
  | .nan => "nan"
  | .infinite negative => if negative then "-inf" else "inf"
  | .finite negative m e => finite negative m e

/-- The shortest decimal that reads back, always with a point or an exponent. Sizes from `10 ^ -4` to
below `10 ^ 16` have no exponent. -/
def shortestText : Float → String :=
  writeWith fun negative m e =>
    if m = 0 then signed negative ['0', '.', '0']
    else
      let (d, unit) := shortest m e
      let digits := digitChars d
      let size := unit + (digits.length : Int) - 1
      if -4 ≤ size ∧ size < 16 then
        let text := plain digits size
        signed negative (if text.contains '.' then text else text ++ ['.', '0'])
      else signed negative (withExponent digits size)

/-- A quotient with at most six significant digits and no zeros at the end. Sizes from `10 ^ -4` to
below `10 ^ 6` have no exponent. -/
def briefQuotient (negative : Bool) (num den : Nat) : String :=
  if num = 0 then signed negative ['0']
  else
    let (d, size) := roundDecimal 6 num den
    let digits := dropTrailingZeros (digitChars d)
    signed negative (if -4 ≤ size ∧ size < 6 then plain digits size else withExponent digits size)

/-- A double with at most six significant digits. -/
def briefText : Float → String :=
  writeWith fun negative m e =>
    let q := Binary64.quotient m e
    briefQuotient negative q.1 q.2

/-- A double with an exponent and three digits after the point. -/
def scientificText : Float → String :=
  writeWith fun negative m e =>
    if m = 0 then signed negative (withExponent ['0', '0', '0', '0'] 0)
    else
      let q := Binary64.quotient m e
      let (d, size) := roundDecimal 4 q.1 q.2
      signed negative (withExponent (digitChars d) size)

end Polyhedra.Decimal
