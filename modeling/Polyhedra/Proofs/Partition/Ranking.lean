import Mathlib
import Polyhedra.Proofs.Partition.Lexicographic
import Polyhedra.Proofs.Partition.Split

/-!
# Partitions in order

The partitions can be listed, walked through and looked up by rank. All three ways give the same partitions in the same
order, and these are all there are. Ranks number them from zero on in lexicographic order of the basic indices.
-/

namespace Polyhedra.Partition

variable {n m : Nat} {p : Partition}

theorem count_eq_choose (n m : Nat) : count n m = (n + m).choose m :=
  binomial_eq_choose _ _

theorem length_all (n m : Nat) : (all n m).length = count n m := by
  rw [all, List.length_map, length_combinations, length_indices, count_eq_choose]

def basics (n m : Nat) : List (List Int) := (all n m).map basic

theorem basics_eq (n m : Nat) : basics n m = combinations m (indices (n + m)) := by
  rw [basics, all, List.map_map]
  exact List.map_id _

theorem sortedLT_basics (n m : Nat) : (basics n m).SortedLT := by
  rw [basics_eq]
  exact sortedLT_combinations (sortedLT_indices _) m

theorem mem_basics {s : List Int} : s ∈ basics n m ↔ IsSelection (n + m) m s := by
  rw [basics_eq, mem_combinations_indices]

theorem isWalk_basics (n m : Nat) : IsWalk ((n + m : Nat) : Int) (indices m) (basics n m) := by
  rw [basics_eq]
  exact isWalk_indices (Nat.le_add_left m n)

theorem length_basics (n m : Nat) : (basics n m).length = count n m := by
  rw [basics, List.length_map, length_all]

theorem lt_length_basics {r : Nat} (h : r < (all n m).length) : r < (basics n m).length := by
  rwa [length_basics, ← length_all]

theorem getElem_basics {r : Nat} (h : r < (all n m).length) (below : r < (basics n m).length) :
    (basics n m)[r] = (all n m)[r].basic :=
  List.getElem_map _

theorem combinations_runFrom (n m : Nat) : combinations m (runFrom ((0 : Nat) : Int) (n + m)) = basics n m := by
  rw [basics_eq, indices_eq_runFrom, Nat.cast_zero]

/-! ### Ranks -/

/-- The search for a rank below the number of partitions never runs out of integers. -/
theorem unrank?_of_lt {r : Nat} (h : r < (all n m).length) : unrank? (n + m) m 0 r = some (all n m)[r].basic := by
  have below := lt_length_basics h
  rw [unrank?_eq_getElem? 0 (by rwa [length_all, count_eq_choose] at h), combinations_runFrom,
    List.getElem?_eq_getElem below, getElem_basics h below]

theorem ofBasic_getElem {r : Nat} (h : r < (all n m).length) : ofBasic (n + m) (all n m)[r].basic = (all n m)[r] := by
  simp [all, ofBasic]

theorem atRank?_of_lt {r : Nat} (h : r < (all n m).length) : atRank? r n m = .ok (all n m)[r] := by
  have inside : 0 ≤ (r : Int) ∧ (r : Int) < count n m := by
    rw [length_all] at h
    omega
  rw [atRank?, if_pos inside, Int.toNat_natCast, unrank?_of_lt h]
  exact congrArg _ (ofBasic_getElem h)

theorem complement_of_mem_all (h : p ∈ all n m) :
    p.nonBasic.SortedLT ∧ ∀ i, i ∈ p.nonBasic ↔ (0 ≤ i ∧ i < ((n + m : Nat) : Int)) ∧ i ∉ p.basic := by
  obtain ⟨basic, _, rfl⟩ := List.mem_map.1 h
  refine ⟨((sortedLT_indices (n + m)).pairwise.filter _).sortedLT, fun i => ?_⟩
  simp [ofBasic, complement, mem_indices]

/-- Listing the partitions, walking from the first selection to the next until there is none, and unranking all ranks
give the same partitions in the same order. Their basic indices ascend lexicographically, each selection is there once,
and the other indices are its complement. A step of the walk goes to the least greater selection and fails at the
greatest one alone. -/
theorem generators_agree (n m : Nat) :
    IsWalk ((n + m : Nat) : Int) (indices m) (basics n m) ∧
    (∀ limit, walk ((n + m : Nat) : Int) limit (indices m) = (basics n m).take limit) ∧
    ((List.range (count n m)).map fun r : Nat => atRank? r n m) = (all n m).map .ok ∧
    (all n m).length = count n m ∧ count n m = (n + m).choose m ∧
    (basics n m).Pairwise (· < ·) ∧
    (∀ s, s ∈ basics n m ↔ IsSelection (n + m) m s) ∧ (∀ s, IsSelection (n + m) m s → (basics n m).count s = 1) ∧
    (∀ p ∈ all n m,
      p.nonBasic.SortedLT ∧ ∀ i, i ∈ p.nonBasic ↔ (0 ≤ i ∧ i < ((n + m : Nat) : Int)) ∧ i ∉ p.basic) ∧
    ∀ s, IsSelection (n + m) m s →
      (∀ t, successor? ((n + m : Nat) : Int) s = some t ↔ IsLeast {u | IsSelection (n + m) m u ∧ s < u} t) ∧
      (successor? ((n + m : Nat) : Int) s = none ↔ IsGreatest {u | IsSelection (n + m) m u} s) := by
  have unranked : ((List.range (count n m)).map fun r : Nat => atRank? r n m) = (all n m).map .ok := by
    refine List.ext_getElem (by simp [length_all]) fun r hr hr' => ?_
    rw [List.getElem_map, List.getElem_range, List.getElem_map]
    exact atRank?_of_lt (by simpa using hr')
  have once : ∀ s, IsSelection (n + m) m s → (basics n m).count s = 1 := by
    intro s hs
    exact List.count_eq_one_of_mem (sortedLT_basics n m).nodup (mem_basics.2 hs)
  refine ⟨isWalk_basics n m, (isWalk_basics n m).walk_eq_take, unranked, length_all n m, count_eq_choose n m,
    (sortedLT_basics n m).pairwise, fun s => mem_basics, once, fun p => complement_of_mem_all, fun s hs => ?_⟩
  exact ⟨fun t => hs.successor?_eq_some_iff, hs.successor?_eq_none_iff⟩

theorem generators_agree_two_two :
    IsSelection 4 2 [1, 3] ∧ (basics 2 2).count [1, 3] = 1 ∧
      IsLeast {u | IsSelection 4 2 u ∧ [1, 3] < u} [2, 3] ∧ IsGreatest {u | IsSelection 4 2 u} [2, 3] := by
  obtain ⟨_, _, _, _, _, _, mem, once, _, step⟩ := generators_agree 2 2
  have inner : IsSelection 4 2 [1, 3] := (mem _).1 (by decide)
  have last : IsSelection 4 2 [2, 3] := (mem _).1 (by decide)
  exact ⟨inner, once _ inner, ((step _ inner).1 _).1 rfl, (step _ last).2.1 rfl⟩

end Polyhedra.Partition
