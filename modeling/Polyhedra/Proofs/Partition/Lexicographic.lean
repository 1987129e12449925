import Mathlib
import Polyhedra.Proofs.Partition.Order

/-!
# Selections by position

The listed selections ascend in lexicographic order, so that a selection is known by its position. Unranking looks a
position up, ranking finds it again, and the successor is the next entry: the three agree because each of them splits
the selections into those with the first integer and those without it, as the listing does.
-/

namespace Polyhedra

variable {count k : Nat} {s t : List Int}

theorem sortedLT_combinations {l : List Int} (h : l.SortedLT) (k : Nat) : (combinations k l).SortedLT := by
  rw [List.sortedLT_iff_pairwise] at h ⊢
  induction l generalizing k with
  | nil => cases k <;> simp [combinations]
  | cons x xs ih =>
    cases k with
    | zero => simp [combinations]
    | succ k =>
      rw [List.pairwise_cons] at h
      rw [combinations, List.pairwise_append]
      refine ⟨?_, ih h.2 (k + 1), ?_⟩
      · refine List.pairwise_map.2 ((ih h.2 k).imp fun hst => ?_)
        exact List.cons_lt_cons_iff.2 (.inr ⟨rfl, hst⟩)
      · -- A selection without the first element starts with a greater one.
        intro s hs t ht
        obtain ⟨s, _, rfl⟩ := List.mem_map.1 hs
        obtain ⟨sub, size⟩ := mem_combinations.1 ht
        cases t with
        | nil => simp at size
        | cons y t => exact List.cons_lt_cons_iff.2 (.inl (h.1 y (sub.subset List.mem_cons_self)))

/-! ### Positions -/

theorem unrank?_eq_getElem? {left k rank : Nat} (first : Nat) (h : rank < left.choose k) :
    unrank? left k first rank = (combinations k (runFrom first left))[rank]? := by
  induction left generalizing k first rank with
  | zero =>
    cases k with
    | zero => simp_all [unrank?, combinations]
    | succ k => simp at h
  | succ left ih =>
    cases k with
    | zero => simp_all [unrank?, combinations]
    | succ k =>
      have size : ((combinations k (runFrom (first + 1) left)).map ((first : Int) :: ·)).length = left.choose k := by
        rw [List.length_map, length_combinations, length_runFrom]
      rw [Nat.choose_succ_succ'] at h
      simp only [unrank?, binomial_eq_choose, runFrom, combinations]
      split
      · rw [List.getElem?_append_left (by omega), List.getElem?_map, ih (first + 1) ‹_›]
        rfl
      · rw [List.getElem?_append_right (by omega), size, ih (first + 1) (by omega)]
        rfl

theorem IsWalk.successor?_getElem {limit : Int} {first : List Int} {l : List (List Int)} (h : IsWalk limit first l)
    {i : Nat} (hi : i < l.length) : successor? limit l[i] = l[i + 1]? := by
  by_cases next : i + 1 < l.length
  · rw [List.getElem?_eq_getElem next]
    exact List.isChain_iff_getElem.1 h.chain i next
  · rw [List.getElem?_eq_none (by omega)]
    apply h.last
    rw [List.getLast?_eq_getElem?, show l.length - 1 = i by omega, List.getElem?_eq_getElem hi]
    rfl

/-- From any of its selections on, a walk is a walk. -/
theorem IsWalk.drop {limit : Int} {first : List Int} {l : List (List Int)} (h : IsWalk limit first l) {i : Nat}
    (hi : i < l.length) : IsWalk limit l[i] (l.drop i) := by
  refine ⟨?_, h.chain.drop i, ?_⟩
  · rw [List.head?_drop, List.getElem?_eq_getElem hi]
  · intro s hs
    rw [List.getLast?_drop, if_neg (by omega)] at hs
    exact h.last s hs

theorem IsSelection.le (h : IsSelection count k s) : k ≤ count := by
  have sub := (mem_combinations.1 (mem_combinations_indices.2 h)).1.length_le
  rwa [h.length_eq, length_indices] at sub

theorem IsSelection.exists_getElem (h : IsSelection count k s) :
    ∃ (i : Nat) (hi : i < (combinations k (indices count)).length), (combinations k (indices count))[i] = s :=
  List.mem_iff_getElem.1 (mem_combinations_indices.2 h)

/-- The successor is the least of the greater selections. -/
theorem IsSelection.successor?_eq_some_iff (h : IsSelection count k s) :
    successor? (count : Int) s = some t ↔ IsLeast {u | IsSelection count k u ∧ s < u} t := by
  have sorted := sortedLT_combinations (sortedLT_indices count) k
  obtain ⟨i, hi, rfl⟩ := h.exists_getElem
  rw [(isWalk_indices h.le).successor?_getElem hi, List.getElem?_eq_some_iff]
  constructor
  · intro found
    obtain ⟨next, rfl⟩ := found
    refine ⟨⟨mem_combinations_indices.1 (List.getElem_mem next), sorted.getElem_lt_getElem_of_lt (by omega)⟩, ?_⟩
    intro u hu
    obtain ⟨j, hj, rfl⟩ := hu.1.exists_getElem
    have after := sorted.getElem_lt_getElem_iff.1 hu.2
    exact sorted.getElem_le_getElem_iff.2 (by omega)
  · intro least
    obtain ⟨⟨ht, above⟩, lower⟩ := least
    obtain ⟨j, hj, rfl⟩ := ht.exists_getElem
    have after := sorted.getElem_lt_getElem_iff.1 above
    refine ⟨by omega, ?_⟩
    apply le_antisymm
    · exact sorted.getElem_le_getElem_iff.2 (by omega)
    · exact lower ⟨mem_combinations_indices.1 (List.getElem_mem _), sorted.getElem_lt_getElem_of_lt (by omega)⟩

theorem IsSelection.successor?_eq_none_iff (h : IsSelection count k s) :
    successor? (count : Int) s = none ↔ IsGreatest {u | IsSelection count k u} s := by
  have sorted := sortedLT_combinations (sortedLT_indices count) k
  refine Iff.trans ?_ (and_iff_right h).symm
  obtain ⟨i, hi, rfl⟩ := h.exists_getElem
  rw [(isWalk_indices h.le).successor?_getElem hi, List.getElem?_eq_none_iff]
  constructor
  · intro last u hu
    obtain ⟨j, hj, rfl⟩ := hu.exists_getElem
    exact sorted.getElem_le_getElem_iff.2 (by omega)
  · intro greatest
    by_contra next
    have above := greatest (mem_combinations_indices.1 (List.getElem_mem (Nat.lt_of_not_le next)))
    have := sorted.getElem_le_getElem_iff.1 above
    omega

end Polyhedra
