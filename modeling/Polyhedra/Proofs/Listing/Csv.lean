import Mathlib
import Polyhedra.Listing.Csv

/-!
# Reading back what was written

A written table is read back field by field. Behind a field the reader stands where a comma or a line end closes it,
however the field was written: the quotes of a quoted field are undone by the reader, and a field without quotes holds
nothing that would end it. A record with a single field is set aside, for an empty one is written as an empty line.
-/

namespace Polyhedra.Csv

variable {fields : List String} {chars rest : List Char} {place : Place}

/-! ### One field -/

@[simp] theorem closeField_reverse (fields : List String) (text : String) :
    closeField fields text.toList.reverse = text :: fields := by
  rw [closeField, List.reverse_reverse, String.ofList_toList]

end Polyhedra.Csv
