import Polyhedra.Dictionary

/-!
# Entries of a listing

What is kept of a dictionary when many are listed: its indices, flags, objective value, point and status,
without the table.
-/

namespace Polyhedra

structure Entry (α : Type) where
  basic : List Int := []
  nonBasic : List Int := []
  status : String := "invalid"
  isValid : Bool := false
  isBasic : Bool := false
  isFeasible : Bool := false
  isOptimal : Bool := false
  isUnbounded : Bool := false
  zeta : Option α := none
  point : List α := []
  message : String := ""

def Dictionary.entry {α : Type} [Zero α] [Numeral α] (d : Dictionary α) : Entry α where
  basic := d.basic
  nonBasic := d.nonBasic
  status := d.status.name
  isValid := d.isValid
  isBasic := d.isBasic
  isFeasible := d.isFeasible
  isOptimal := d.isOptimal
  isUnbounded := d.isUnbounded
  zeta := d.zeta?
  point := d.point
  message := d.message

end Polyhedra
