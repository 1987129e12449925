import Mathlib
import Polyhedra.Proofs.Partition.Split

/-!
# What the check of a partition finds

Two lists that have as many elements as there are indices, and hold every index once, have no room for anything else. So
the check never gets as far as an index outside: beyond the lengths, its answer is decided by how often each index is
there, and it is the same for the lists in any order.
-/

namespace Polyhedra

namespace Partition

variable {basic nonBasic members : List Int} {n m : Int}

/-- The pigeonhole: as many elements as indices, and every index among them once. -/
theorem perm_indices_of_count {count : Nat} (size : members.length = count)
    (once : ∀ i ∈ indices count, members.count i = 1) : members.Perm (indices count) := by
  have inside : indices count ⊆ members := by
    intro i mem
    rw [← List.count_pos_iff, once i mem]
    exact Nat.one_pos
  have all : (indices count).Subperm members := List.subperm_of_subset (sortedLT_indices count).nodup inside
  exact (all.perm_of_length_le (by rw [size, length_indices])).symm

/-- In as many elements as there are indices, only an index that is not there exactly once can be wrong. -/
theorem coverageFault?_of_length {count : Nat} (size : members.length = count) :
    coverageFault? members count = (indices count).findSome? (memberFault? members) := by
  cases found : (indices count).findSome? (memberFault? members) with
  | some fault =>
    rw [coverageFault?, Int.toNat_natCast, found]
    rfl
  | none =>
    rw [coverageFault?_eq_none_iff]
    apply perm_indices_of_count size
    intro i mem
    exact memberFault?_eq_none_iff.1 (List.findSome?_eq_none_iff.1 found i mem)

theorem memberFault?_congr {members' : List Int} (same : members'.Perm members) :
    memberFault? members' = memberFault? members := by
  funext i
  rw [memberFault?, memberFault?, same.count_eq]

/-! ### The check in the order of its faults -/

theorem check_of_basic_ne (size : (basic.length : Int) ≠ m) :
    check basic nonBasic n m = .error (.basicCount m basic.length) := by
  rw [check, if_pos size]

theorem check_of_nonBasic_ne (basicSize : (basic.length : Int) = m) (size : (nonBasic.length : Int) ≠ n) :
    check basic nonBasic n m = .error (.nonBasicCount n nonBasic.length) := by
  rw [check, if_neg (not_not.2 basicSize), if_pos size]

/-- Of lists with the right lengths only the numbers of times that the indices occur are looked at. -/
theorem check_of_lengths (basicSize : (basic.length : Int) = m) (nonBasicSize : (nonBasic.length : Int) = n) :
    check basic nonBasic n m =
      match (indices (n + m).toNat).findSome? (memberFault? (basic ++ nonBasic)) with
      | some fault => .error fault
      | none => .ok () := by
  have size : (basic ++ nonBasic).length = (n + m).toNat := by
    rw [List.length_append]
    omega
  have searched : coverageFault? (basic ++ nonBasic) (n + m) =
      (indices (n + m).toNat).findSome? (memberFault? (basic ++ nonBasic)) := by
    rw [← coverageFault?_of_length size]
    congr 1
    omega
  rw [check, if_neg (not_not.2 basicSize), if_neg (not_not.2 nonBasicSize)]
  generalize coverageFault? (basic ++ nonBasic) (n + m) = found at searched
  subst searched
  rfl

theorem check_congr {basic' nonBasic' : List Int} (sameBasic : basic'.Perm basic)
    (sameNonBasic : nonBasic'.Perm nonBasic) (n m : Int) : check basic' nonBasic' n m = check basic nonBasic n m := by
  by_cases basicSize : (basic.length : Int) = m
  · by_cases nonBasicSize : (nonBasic.length : Int) = n
    · rw [check_of_lengths basicSize nonBasicSize, check_of_lengths (by rw [sameBasic.length_eq, basicSize])
        (by rw [sameNonBasic.length_eq, nonBasicSize]), memberFault?_congr (sameBasic.append sameNonBasic)]
    · rw [check_of_nonBasic_ne basicSize nonBasicSize, check_of_nonBasic_ne (by rw [sameBasic.length_eq, basicSize])
        (by rwa [sameNonBasic.length_eq]), sameNonBasic.length_eq]
  · rw [check_of_basic_ne basicSize, check_of_basic_ne (by rwa [sameBasic.length_eq]), sameBasic.length_eq]

end Partition

end Polyhedra
