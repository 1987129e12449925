import Mathlib
import Polyhedra.Proofs.Dictionary.Checked
import Polyhedra.Proofs.Dictionary.Stages
import Polyhedra.Proofs.Partition.Faults

/-!
# The order of indices does not matter

A dictionary is evaluated on its index lists in ascending order, and the check in front of it counts indices without
regard to their places. So lists in another order have the same dictionary, down to the last digit, over any scalars;
only the lists of an invalid partition are kept as they were given. The values then belong to the basic indices in their
ascending order, and so do the coordinates of the point.
-/

namespace Polyhedra.Dictionary

variable {α : Type} [Scalar α] {m n : Nat} {basic basic' nonBasic nonBasic' : List Int}

/-- Two dictionaries that differ at most in the index lists they keep: the table with its verdict, or the fault, is the
same, and all that is read off from it. -/
structure SaysAs [Numeral α] (d' d : Dictionary α) : Prop where
  outcome : d' = { d with basic := d'.basic, nonBasic := d'.nonBasic }
  zeta : d'.zeta? = d.zeta?
  isValid : d'.isValid = d.isValid
  isBasic : d'.isBasic = d.isBasic
  isFeasible : d'.isFeasible = d.isFeasible
  isVertex : d'.isVertex = d.isVertex
  isOptimal : d'.isOptimal = d.isOptimal
  isUnbounded : d'.isUnbounded = d.isUnbounded
  status : d'.status = d.status
  message : d'.message = d.message
  faultKind : d'.faultKind? = d.faultKind?
  unboundedVariable : d'.unboundedVariable? = d.unboundedVariable?
  point : d'.point = d.point

theorem saysAs_of_point [Numeral α] {outcome : Outcome α m n}
    (point : (⟨m, n, basic', nonBasic', outcome⟩ : Dictionary α).point = point ⟨m, n, basic, nonBasic, outcome⟩) :
    SaysAs ⟨m, n, basic', nonBasic', outcome⟩ ⟨m, n, basic, nonBasic, outcome⟩ := by
  rcases outcome with _ | _ | ⟨_, _ | _ | _ | _⟩ <;>
    exact ⟨rfl, rfl, rfl, rfl, rfl, rfl, rfl, rfl, rfl, rfl, rfl, rfl, point⟩

theorem build_congr [Numeral α] (p : Program α m n) (sameBasic : basic'.Perm basic) (sameNonBasic : nonBasic'.Perm nonBasic)
    (tolerance pivotTolerance : α) :
    SaysAs (build p basic' nonBasic' tolerance pivotTolerance) (build p basic nonBasic tolerance pivotTolerance) := by
  rw [build, build, Partition.check_congr sameBasic sameNonBasic, ascending_congr sameBasic, ascending_congr sameNonBasic]
  cases Partition.check basic nonBasic n m with
  | error fault => exact saysAs_of_point rfl
  | ok _ => exact saysAs_of_point rfl

/-- The values belong to the basic indices at their places: a value is the coordinate of its index, unless this is a slack,
and the coordinates of the other indices are zero. -/
structure Places (d : Dictionary α) : Prop where
  values : ∀ t, d.tableau? = some t → ∀ (i : Fin d.numConstraints) (k : Nat), d.basic[(i : Nat)]? = some (k : Int) →
    k < d.numVars → d.point[k]? = some (t.values.get i)
  zeros : d.isBasic = true → ∀ k : Nat, k < d.numVars → (k : Int) ∉ d.basic → d.point[k]? = some 0

theorem places_of_split (s : Split m n) (outcome : Outcome α m n) :
    Places ⟨m, n, s.partition.basic, s.partition.nonBasic, outcome⟩ := by
  cases outcome with
  | invalid fault => exact ⟨nofun, nofun⟩
  | notBasic => exact ⟨nofun, nofun⟩
  | evaluated t verdict =>
    have coordinate {k : Nat} (inside : k < n) :
        (point ⟨m, n, s.partition.basic, s.partition.nonBasic, .evaluated t verdict⟩)[k]? =
          some (s.join t.values.get 0 (Fin.castAdd m ⟨k, inside⟩)) := by
      change (coordinates s.partition.basic t.values.toList n)[k]? = _
      rw [coordinates_partition, List.getElem?_ofFn, dif_pos inside]
    refine ⟨?_, ?_⟩
    · intro t' stored i k named inside
      obtain rfl := Option.some.inj stored
      have place : Fin.castAdd m ⟨k, inside⟩ = s.basicAt i := by
        have index : (s.basicAt i : Nat) = k := by
          simpa [Split.partition, Split.indexList] using named
        exact Fin.ext index.symm
      rw [coordinate inside, place, s.join_basicAt]
    · intro _ k inside other
      have index : Fin.castAdd m ⟨k, inside⟩ ∉ s.basic := fun mem => other (Split.mem_partition_basic.2 mem)
      obtain ⟨j, place⟩ := Split.not_mem_basic.1 index
      rw [coordinate inside, ← place, s.join_nonBasicAt]
      rfl

/-- Matrices of fitting shapes are a program whose dictionary is built for any lists of indices. -/
theorem exists_program {a b c : DenseMatrix α} (bounds : b.size = (a.rows, 1)) (objective : c.size = (a.cols, 1)) :
    ∃ p : Program α a.rows a.cols, ∀ basic nonBasic tolerance pivotTolerance,
      ofMatrices? a b c basic nonBasic tolerance pivotTolerance = .ok (build p basic nonBasic tolerance pivotTolerance) := by
  obtain ⟨height, width⟩ := Prod.mk.inj bounds
  obtain ⟨height', width'⟩ := Prod.mk.inj objective
  refine ⟨⟨a.entries, (b.entries.resize height width).toColumn, (c.entries.resize height' width').toColumn⟩, ?_⟩
  intro basic nonBasic tolerance pivotTolerance
  rw [ofMatrices?, companions?, dif_pos ⟨height, width⟩, dif_pos ⟨height', width'⟩]

/-- Index lists in another order, valid or not, have the same dictionary except that an invalid one keeps the lists as they
were given. Evaluating it step by step, where every selection sorts its indices anew, comes to this dictionary as well.
Those of a valid partition come out ascending, with the values at their places. -/
theorem build_ignores_order [Numeral α] (a b c : DenseMatrix α) (tolerance pivotTolerance : α)
    (bounds : b.size = (a.rows, 1)) (objective : c.size = (a.cols, 1)) (sameBasic : basic'.Perm basic)
    (sameNonBasic : nonBasic'.Perm nonBasic) :
    ∃ d d', ofMatrices? a b c basic nonBasic tolerance pivotTolerance = .ok d ∧
      ofMatrices? a b c basic' nonBasic' tolerance pivotTolerance = .ok d' ∧
      Checked.build? a b c basic nonBasic tolerance pivotTolerance = .ok d.answer ∧
      Checked.build? a b c basic' nonBasic' tolerance pivotTolerance = .ok d'.answer ∧
      d'.SaysAs d ∧
      (Partition.check basic nonBasic a.cols a.rows = .ok () →
        d'.basic = d.basic ∧ d'.nonBasic = d.nonBasic ∧ d.basic.SortedLT ∧ d.nonBasic.SortedLT ∧
          d.basic.Perm basic ∧ d.nonBasic.Perm nonBasic ∧ d.Places) := by
  obtain ⟨p, built⟩ := exists_program bounds objective
  have answered (basic nonBasic : List Int) : Checked.build? a b c basic nonBasic tolerance pivotTolerance =
      .ok (build p basic nonBasic tolerance pivotTolerance).answer := by
    obtain ⟨d, made, answer⟩ := Checked.build?_of_companions basic nonBasic tolerance pivotTolerance bounds objective
    rw [built] at made
    rw [answer, Except.ok.inj made]
  refine ⟨_, _, built _ _ _ _, built _ _ _ _, answered _ _, answered _ _,
    build_congr p sameBasic sameNonBasic tolerance pivotTolerance, fun valid => ?_⟩
  have valid' : Partition.check basic' nonBasic' a.cols a.rows = .ok () := by
    rw [Partition.check_congr sameBasic sameNonBasic, valid]
  obtain ⟨s, ordered, ordered'⟩ := Split.exists_of_check valid
  rw [build_of_check p tolerance pivotTolerance valid, build_of_check p tolerance pivotTolerance valid',
    ascending_congr sameBasic, ascending_congr sameNonBasic]
  refine ⟨rfl, rfl, ?_, ?_, perm_ascending basic, perm_ascending nonBasic, ?_⟩
  · rw [ordered]
    exact Split.sortedLT_indexList s.basicAt
  · rw [ordered']
    exact Split.sortedLT_indexList s.nonBasicAt
  · rw [ordered, ordered']
    exact places_of_split s _

/-- Two constraints on two variables, of which the first one is basic together with the second slack. -/
theorem build_of_slanted_ignores_order :
    let a : DenseMatrix Float := ⟨2, 2, .ofLists 0 [[2, 1], [1, 3]]⟩
    let b : DenseMatrix Float := ⟨2, 1, .ofLists 0 [[4], [6]]⟩
    let c : DenseMatrix Float := ⟨2, 1, .ofLists 0 [[1], [1]]⟩
    b.size = (a.rows, 1) ∧ c.size = (a.cols, 1) ∧ ([3, 0] : List Int).Perm [0, 3] ∧ ([2, 1] : List Int).Perm [1, 2] ∧
      Partition.check [0, 3] [1, 2] a.cols a.rows = .ok () ∧
      ∃ d d', ofMatrices? a b c [0, 3] [1, 2] 0 0 = .ok d ∧ ofMatrices? a b c [3, 0] [2, 1] 0 0 = .ok d' ∧
        d'.SaysAs d ∧ d'.basic = d.basic ∧ d.basic.SortedLT ∧ d.Places := by
  intro a b c
  have turned : ([3, 0] : List Int).Perm [0, 3] := by decide
  have turned' : ([2, 1] : List Int).Perm [1, 2] := by decide
  have valid : Partition.check [0, 3] [1, 2] a.cols a.rows = .ok () := by decide
  obtain ⟨d, d', made, made', _, _, alike, places⟩ := build_ignores_order a b c 0 0 rfl rfl turned turned'
  obtain ⟨same, _, sorted, _, _, _, place⟩ := places valid
  exact ⟨rfl, rfl, turned, turned', valid, d, d', made, made', alike, same, sorted, place⟩

end Polyhedra.Dictionary
