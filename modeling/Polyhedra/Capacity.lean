/-!
# Capacity

Things are counted off up to a limit, and memory holds only so many of them. Requests beyond that are
refused before anything is made.
-/

namespace Polyhedra

/-- The greatest count up to which things are counted off one by one. -/
def countingLimit : Nat := 9223372036854775807

/-- The greatest number of numbers that memory holds. -/
def storageLimit : Nat := 2147483648

/-- Why a number of things is refused: they cannot be counted off, or memory does not hold them. -/
inductive Excess where
  | uncountable
  | unstorable
  deriving DecidableEq, Repr

/-- What is wrong with a number of things. -/
def excess? (count : Nat) : Option Excess :=
  if countingLimit < count then some .uncountable
  else if storageLimit < count then some .unstorable
  else none

/-- What is wrong with the size of a table whose entries take eight bytes each. Its bytes are counted off
as though it had at least one row and one column. -/
def tableExcess? (rows cols : Nat) : Option Excess :=
  if countingLimit < 8 * (max 1 rows * max 1 cols) then some .uncountable
  else if storageLimit < rows * cols then some .unstorable
  else none

/-- What is wrong with a number of binary digits, of which thirty take four bytes. -/
def digitExcess? (digits : Nat) : Option Excess :=
  let bytes := 4 * (digits / 30)
  if countingLimit < bytes then some .uncountable
  else if 8 * storageLimit < bytes then some .unstorable
  else none

end Polyhedra
