import Polyhedra.Ascending
import Polyhedra.Fault
import Polyhedra.Partition.Combination

/-!
# Partitions of the indices

A problem with `n` variables and `m` constraints has the indices `0` to `n + m - 1`, the slack variables
last. A partition makes `m` of them basic and leaves the other `n` non-basic.
-/

namespace Polyhedra

open Polyhedra.Text

/-- The basic and the non-basic indices. -/
structure Partition where
  basic : List Int
  nonBasic : List Int
  deriving DecidableEq, Repr

/-- A list of integers in square brackets. -/
def indexListText (l : List Int) : String :=
  bracketed (l.map toString)

namespace Partition

def text (p : Partition) : String :=
  "B=" ++ indexListText p.basic ++ " N=" ++ indexListText p.nonBasic

/-- The indices that are not among the given ones, in ascending order. -/
def complement (basic : List Int) (count : Nat) : List Int :=
  (indices count).filter fun i => !basic.contains i

def ofBasic (count : Nat) (basic : List Int) : Partition :=
  ⟨basic, complement basic count⟩

/-- What is wrong with an index as a member of exactly one of the two sets. -/
def memberFault? (members : List Int) (i : Int) : Option PartitionFault :=
  match members.count i with
  | 0 => some (.missing i)
  | 1 => none
  | _ + 2 => some (.duplicate i)

/-- What is wrong with the indices of a partition of the right size: the least index that is not there
exactly once, or else the least one that should not be there. -/
def coverageFault? (members : List Int) (count : Int) : Option PartitionFault :=
  ((indices count.toNat).findSome? (memberFault? members)).or
    ((ascending members).findSome? fun i =>
      if 0 ≤ i ∧ i < count then none else some (.outside i count))

/-- Check two lists of indices against a number of variables and of constraints. -/
def check (basic nonBasic : List Int) (n m : Int) : Except PartitionFault Unit :=
  if (basic.length : Int) ≠ m then .error (.basicCount m basic.length)
  else if (nonBasic.length : Int) ≠ n then .error (.nonBasicCount n nonBasic.length)
  else match coverageFault? (basic ++ nonBasic) (n + m) with
    | some fault => .error fault
    | none => .ok ()

def isValid (basic nonBasic : List Int) (n m : Int) : Bool :=
  match check basic nonBasic n m with
  | .ok _ => true
  | .error _ => false

/-- The partition with the given basic indices, in ascending order. Repeated indices leave too many
non-basic ones, which the final check finds. -/
def make? (basic : List Int) (n m : Int) : Except PartitionFault Partition :=
  let ordered := ascending basic
  let count := n + m
  if (ordered.length : Int) ≠ m then .error (.basicCount m ordered.length)
  else match ordered.find? fun i => !(0 ≤ i && i < count) with
    | some i => .error (.outside i count)
    | none =>
      let p := ofBasic count.toNat ordered
      match check p.basic p.nonBasic n m with
      | .error fault => .error fault
      | .ok _ => .ok p

/-- The numbers of variables and of constraints, which must not be negative. -/
def checkCounts (n m : Int) : Except RequestFault (Nat × Nat) :=
  if n < 0 ∨ m < 0 then .error (.negativeCounts n m) else .ok (n.toNat, m.toNat)

/-- The numbers of variables and of constraints, if their partitions can be counted: all indices, or else
those of the smaller of the two sets, must be countable. -/
def countable? (n m : Int) : Except RequestFault (Nat × Nat) :=
  match checkCounts n m with
  | .error fault => .error fault
  | .ok (n, m) =>
    if countingLimit < n + m ∧ countingLimit < min n m then .error (.excess .uncountable) else .ok (n, m)

/-- The numbers of variables and of constraints, if all indices can be listed. -/
def listable? (n m : Int) : Except RequestFault (Nat × Nat) :=
  match checkCounts n m with
  | .error fault => .error fault
  | .ok (n, m) =>
    match excess? (n + m) with
    | some cause => .error (.excess cause)
    | none => .ok (n, m)

def count (n m : Nat) : Nat :=
  binomial (n + m) m

/-- Every partition, in lexicographic order of the basic indices. -/
def all (n m : Nat) : List Partition :=
  (combinations m (indices (n + m))).map (ofBasic (n + m))

/-- The position of a partition in that order; its basic indices are taken as they stand. -/
def rank? (p : Partition) (n m : Int) : Except PartitionFault Nat :=
  match check p.basic p.nonBasic n m with
  | .error fault => .error fault
  | .ok _ => .ok (rankFrom (n + m).toNat 0 p.basic)

def atRank? (rank : Int) (n m : Nat) : Except RequestFault Partition :=
  if 0 ≤ rank ∧ rank < count n m then
    match unrank? (n + m) m 0 rank.toNat with
    | some basic => .ok (ofBasic (n + m) basic)
    | none => .error (.rankOutside rank (count n m))
  else .error (.rankOutside rank (count n m))

/-- At most `limit` partitions from a selection of basic indices on. -/
def walkFrom (n m limit : Nat) (basic : List Int) : List Partition :=
  (walk ((n + m : Nat) : Int) limit basic).map (ofBasic (n + m))

/-- The first partitions in order, at most `limit` of them. -/
def initial (n m limit : Nat) : List Partition :=
  walkFrom n m limit (indices m)

end Partition

end Polyhedra
