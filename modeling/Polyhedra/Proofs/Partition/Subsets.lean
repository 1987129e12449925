import Mathlib
import Polyhedra.Proofs.Partition.Faults

/-!
# Partitions made from a subset

A partition is made from its basic indices alone, and the others are what is left. Repeated indices are never looked for:
they leave more indices over than there are variables, by as many as there are repetitions, and the check of the finished
partition finds these too many. It finds nothing else, since lengths and bounds have been looked at before.
-/

namespace Polyhedra.Partition

variable {basic basic' : List Int} {n m count : Nat}

/-! ### What is left over -/

end Polyhedra.Partition
