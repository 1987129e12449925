import Polyhedra.Text.Digit
import Polyhedra.Text.Words
import Polyhedra.Decimal.Binary64

/-!
# Reading numbers

The grammar of numbers in text. Blanks around a number are dropped, decimal digits of any script count,
and one underscore may stand between two digits. An integer is a sign and digits; a decimal may have a
point and an exponent too, and the words for infinity and not-a-number are read in any case. An integer of
too many digits is neither read nor written.
-/

namespace Polyhedra.Decimal

open Polyhedra.Text

/-- Blanks around a number; the four information separators are not among them. -/
def isNumberBlank (c : Char) : Bool :=
  isBlank c && !(0x1C ≤ c.toNat && c.toNat ≤ 0x1F)

/-- Drop underscores, each of which must stand between two digits. `afterDigit` says whether the
character before was one. -/
def dropUnderscores (afterDigit : Bool) : List Char → Option (List Char)
  | [] => some []
  | '_' :: rest =>
    match rest with
    | [] => none
    | d :: _ => if afterDigit && d.isDigit then dropUnderscores false rest else none
  | c :: rest => (dropUnderscores c.isDigit rest).map (c :: ·)

/-- The characters of a number, with blanks, underscores and foreign digits out of the way. -/
def numberChars? (text : List Char) : Option (List Char) :=
  dropUnderscores false ((trimBy isNumberBlank text).map westernDigit)

/-- Split off a sign: whether it was a minus, and the rest. -/
def splitSign : List Char → Bool × List Char
  | '-' :: rest => (true, rest)
  | '+' :: rest => (false, rest)
  | cs => (false, cs)

def digitsValue (digits : List Char) : Nat :=
  digits.foldl (fun n c => 10 * n + (c.toNat - 48)) 0

/-- The integer that digits write, all of the text being digits and at least one. -/
def natural? (digits : List Char) : Option Nat :=
  if digits.isEmpty then none
  else if digits.all Char.isDigit then some (digitsValue digits)
  else none

/-- A signed run of digits. -/
def signedNatural? (cs : List Char) : Option Int :=
  let (negative, digits) := splitSign cs
  (natural? digits).map fun n => if negative then -(n : Int) else (n : Int)

def integer? (text : List Char) : Option Int :=
  (numberChars? text).bind signedNatural?

/-- The greatest number of digits that an integer usually may have. -/
def usualDigits : Nat := 4300

/-- Whether an integer has few enough digits to be written. -/
def isWritable (n : Int) : Bool :=
  (toString n.natAbs).length ≤ usualDigits

/-- An integer as text, unless it has too many digits. -/
def integerText? (n : Int) : Option String :=
  if isWritable n then some (toString n) else none

/-- An integer in text, of at most so many digits. -/
def shortInteger? (digits : Nat) (text : List Char) : Option Int :=
  (numberChars? text).bind fun cs =>
    if digits < (splitSign cs).2.length then none else signedNatural? cs

/-- A number as written: a special value, or digits and a power of ten. -/
inductive Written where
  | nan
  | infinite (negative : Bool)
  | decimal (negative : Bool) (digits : Nat) (exponent : Int)
  deriving DecidableEq, Repr

/-- The part of a decimal after its sign: digits with an optional point, at least one digit, and an
optional exponent. -/
def unsignedDecimal? (negative : Bool) (cs : List Char) : Option Written :=
  let whole := cs.takeWhile Char.isDigit
  let rest := cs.dropWhile Char.isDigit
  let (fraction, rest) := match rest with
    | '.' :: more => (more.takeWhile Char.isDigit, more.dropWhile Char.isDigit)
    | _ => ([], rest)
  if whole.isEmpty && fraction.isEmpty then none
  else
    let power := match rest with
      | [] => some 0
      | c :: more => if c = 'e' ∨ c = 'E' then signedNatural? more else none
    power.map fun e =>
      .decimal negative (digitsValue (whole ++ fraction)) (e - (fraction.length : Int))

/-- The words that stand for special values, in lower case. -/
def special? (negative : Bool) (cs : List Char) : Option Written :=
  let word := String.ofList (cs.map Char.toLower)
  if word = "nan" then some .nan
  else if word = "inf" ∨ word = "infinity" then some (.infinite negative)
  else none

def written? (text : List Char) : Option Written :=
  (numberChars? text).bind fun cs =>
    let (negative, rest) := splitSign cs
    (special? negative rest).or (unsignedDecimal? negative rest)

/-- The double nearest to a written number. -/
def Written.toFloat : Written → Float
  | .nan => Binary64.quietNaN
  | .infinite negative => Binary64.infinity negative
  | .decimal negative digits exponent => Binary64.ofDecimal negative digits exponent

def float? (text : List Char) : Option Float :=
  (written? text).map Written.toFloat

end Polyhedra.Decimal
