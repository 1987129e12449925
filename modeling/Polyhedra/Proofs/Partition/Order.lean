import Mathlib
import Polyhedra.Ascending
import Polyhedra.Partition.Combination

/-!
# Selections in order

The selections of `k` integers from a run are listed by recursion on the run, and stepped through by looking for the
last element with room. Both give the same order: within the selections that keep the first element the successor works
on the rest, and the last of these has as successor the first selection without that element.
-/

namespace Polyhedra

/-! ### Numbers of selections -/

theorem binomial_eq_choose (n k : Nat) : binomial n k = n.choose k := by
  have product (j : Nat) : (List.range j).foldl (fun c i => c * (n - i) / (i + 1)) 1 = n.choose j := by
    induction j with
    | zero => exact (Nat.choose_zero_right n).symm
    | succ j ih =>
      rw [List.range_succ, List.foldl_append, ih]
      change n.choose j * (n - j) / (j + 1) = _
      rw [← Nat.choose_succ_right_eq, Nat.mul_div_cancel _ (Nat.succ_pos j)]
  rw [binomial]
  split
  · exact (Nat.choose_eq_zero_of_lt ‹n < k›).symm
  · rw [product]
    rcases Nat.le_total k (n - k) with h | h
    · rw [Nat.min_eq_left h]
    · rw [Nat.min_eq_right h, Nat.choose_symm (by omega)]

theorem length_combinations {α : Type} (k : Nat) (l : List α) : (combinations k l).length = l.length.choose k := by
  induction l generalizing k with
  | nil => cases k <;> rfl
  | cons x xs ih =>
    cases k with
    | zero => simp [combinations]
    | succ k =>
      rw [combinations, List.length_append, List.length_map, ih, ih, List.length_cons, Nat.choose_succ_succ]

theorem mem_combinations {α : Type} {k : Nat} {l s : List α} : s ∈ combinations k l ↔ s.Sublist l ∧ s.length = k := by
  induction l generalizing k s with
  | nil =>
    cases k with
    | zero => simp [combinations]
    | succ k =>
      simp only [combinations, List.not_mem_nil, List.sublist_nil, false_iff, not_and]
      intro same
      subst same
      exact Nat.noConfusion
  | cons x xs ih =>
    cases k with
    | zero =>
      rw [combinations, List.mem_singleton]
      refine ⟨?_, ?_⟩
      · intro same
        subst same
        exact ⟨List.nil_sublist _, rfl⟩
      · exact fun h => List.length_eq_zero_iff.1 h.2
    | succ k =>
      rw [combinations, List.mem_append, List.mem_map, ih]
      refine ⟨?_, ?_⟩
      · intro h
        rcases h with ⟨t, ht, rfl⟩ | ⟨hs, length⟩
        · obtain ⟨sub, rfl⟩ := ih.1 ht
          exact ⟨sub.cons_cons x, rfl⟩
        · exact ⟨hs.cons x, length⟩
      · intro h
        obtain ⟨hs, length⟩ := h
        cases hs with
        | cons _ hs => exact .inr ⟨hs, length⟩
        | cons_cons _ hs => exact .inl ⟨_, ih.2 ⟨hs, Nat.succ.inj length⟩, rfl⟩

/-! ### Ascending runs -/

@[simp] theorem length_runFrom (first : Int) (length : Nat) : (runFrom first length).length = length := by
  induction length generalizing first with
  | zero => rfl
  | succ length ih => rw [runFrom, List.length_cons, ih]

theorem mem_runFrom {first i : Int} {length : Nat} : i ∈ runFrom first length ↔ first ≤ i ∧ i < first + length := by
  induction length generalizing first with
  | zero => simp [runFrom]
  | succ length ih =>
    rw [runFrom, List.mem_cons, ih]
    omega

theorem sortedLT_runFrom (first : Int) (length : Nat) : (runFrom first length).SortedLT := by
  rw [List.sortedLT_iff_pairwise]
  induction length generalizing first with
  | zero => exact .nil
  | succ length ih =>
    refine .cons (fun i hi => ?_) (ih (first + 1))
    have := mem_runFrom.1 hi
    omega

theorem mem_indices {i : Int} {count : Nat} : i ∈ indices count ↔ 0 ≤ i ∧ i < count := by
  rw [indices, List.mem_map]
  refine ⟨?_, ?_⟩
  · intro h
    obtain ⟨k, hk, rfl⟩ := h
    rw [List.mem_range] at hk
    exact ⟨Int.natCast_nonneg k, Int.ofNat_lt.2 hk⟩
  · intro h
    obtain ⟨nonneg, below⟩ := h
    exact ⟨i.toNat, List.mem_range.2 (by omega), Int.toNat_of_nonneg nonneg⟩

theorem sortedLT_indices (count : Nat) : (indices count).SortedLT := by
  rw [List.sortedLT_iff_pairwise, indices, List.pairwise_map]
  exact List.pairwise_lt_range.imp Int.ofNat_lt.2

@[simp] theorem length_indices (count : Nat) : (indices count).length = count := by
  rw [indices, List.length_map, List.length_range]

theorem indices_eq_runFrom (count : Nat) : indices count = runFrom 0 count := by
  apply (sortedLT_indices count).eq_of_mem_iff (sortedLT_runFrom 0 count)
  intro i
  rw [mem_indices, mem_runFrom]
  omega

/-! ### Selections of indices -/

structure IsSelection (count k : Nat) (s : List Int) : Prop where
  sorted : s.SortedLT
  length_eq : s.length = k
  inside : ∀ i ∈ s, 0 ≤ i ∧ i < (count : Int)

theorem mem_combinations_indices {count k : Nat} {s : List Int} :
    s ∈ combinations k (indices count) ↔ IsSelection count k s := by
  rw [mem_combinations]
  constructor
  · intro h
    exact ⟨((sortedLT_indices count).pairwise.sublist h.1).sortedLT, h.2, fun i hi => mem_indices.1 (h.1.subset hi)⟩
  · intro h
    refine ⟨?_, h.length_eq⟩
    apply List.sublist_of_subperm_of_sortedLE _ h.sorted.sortedLE (sortedLT_indices count).sortedLE
    exact List.subperm_of_subset h.sorted.nodup fun i hi => mem_indices.2 (h.inside i hi)

/-! ### Walks from selection to selection -/

/-- A list of selections that starts with a given one, goes on from each to its successor and stops at one without. -/
structure IsWalk (limit : Int) (first : List Int) (l : List (List Int)) : Prop where
  head : l.head? = some first
  chain : l.IsChain fun s t => successor? limit s = some t
  last : ∀ s ∈ l.getLast?, successor? limit s = none

theorem IsWalk.walk_eq_take {limit : Int} {first : List Int} {l : List (List Int)} (h : IsWalk limit first l)
    (count : Nat) : walk limit count first = l.take count := by
  induction count generalizing first l with
  | zero => rw [walk, List.take_zero]
  | succ count ih =>
    obtain ⟨head, chain, last⟩ := h
    cases l with
    | nil => cases head
    | cons s l =>
      obtain rfl := Option.some.inj head
      rw [walk, List.take_succ_cons]
      cases l with
      | nil => rw [last s rfl, List.take_nil]
      | cons t l =>
        rw [List.isChain_cons_cons] at chain
        rw [chain.1]
        exact congrArg _ (ih ⟨rfl, chain.2, last⟩)

/-- Every selection that keeps an integer below the others is stepped through like the rest of it. -/
theorem IsWalk.map_cons {limit first : Int} {s : List Int} {l : List (List Int)} (h : IsWalk limit s l) :
    (l.map (first :: ·)).IsChain fun s t => successor? limit s = some t := by
  refine (List.isChain_map _).2 (h.chain.imp fun s t hst => ?_)
  rw [successor?, hst]

/-- The selections of a run are in the order of their successors. -/
theorem isWalk_combinations (length k : Nat) (first : Int) (hk : k ≤ length) :
    IsWalk (first + length) (runFrom first k) (combinations k (runFrom first length)) := by
  induction length generalizing k first with
  | zero =>
    obtain rfl : k = 0 := by omega
    exact ⟨rfl, .singleton _, by simp [combinations, successor?]⟩
  | succ length ih =>
    cases k with
    | zero => exact ⟨rfl, .singleton _, by simp [combinations, successor?]⟩
    | succ k =>
      have shift : first + ((length + 1 : Nat) : Int) = (first + 1) + length := by omega
      have kept := ih k (first + 1) (by omega)
      rw [← shift] at kept
      rw [runFrom, runFrom, combinations]
      -- A last selection that keeps the first element moves this element up, if the others leave room.
      have turn : ∀ s ∈ ((combinations k (runFrom (first + 1) length)).map (first :: ·)).getLast?,
          successor? (first + ((length + 1 : Nat) : Int)) s =
            if k < length then some (runFrom (first + 1) (k + 1)) else none := by
        intro s hs
        rw [List.getLast?_map, Option.mem_def, Option.map_eq_some_iff] at hs
        obtain ⟨t, ht, rfl⟩ := hs
        have size := (mem_combinations.1 (List.mem_of_getLast? ht)).2
        rw [successor?, kept.last t ht, size]
        exact if_congr (by omega) rfl rfl
      have head : ((combinations k (runFrom (first + 1) length)).map (first :: ·)).head? =
          some (first :: runFrom (first + 1) k) := by
        rw [List.head?_map, kept.head]
        rfl
      rcases Nat.lt_or_ge k length with room | full
      · have dropped := ih (k + 1) (first + 1) room
        rw [← shift] at dropped
        refine ⟨?_, ?_, ?_⟩
        · rw [List.head?_append, head]
          rfl
        · apply kept.map_cons.append dropped.chain
          intro s hs t ht
          rw [turn s hs, if_pos room, ← dropped.head]
          exact ht
        · intro s hs
          have nonempty : combinations (k + 1) (runFrom (first + 1) length) ≠ [] := by
            intro empty
            have := dropped.head
            rw [empty] at this
            cases this
          rw [List.getLast?_append_of_ne_nil _ nonempty] at hs
          exact dropped.last s hs
      · have empty : combinations (k + 1) (runFrom (first + 1) length) = [] := by
          rw [← List.length_eq_zero_iff, length_combinations, length_runFrom, Nat.choose_eq_zero_of_lt (by omega)]
        rw [empty, List.append_nil]
        refine ⟨head, kept.map_cons, fun s hs => ?_⟩
        rw [turn s hs, if_neg (by omega)]

/-- The selections of the first indices are in the order of their successors. -/
theorem isWalk_indices {count k : Nat} (hk : k ≤ count) :
    IsWalk (count : Int) (indices k) (combinations k (indices count)) := by
  have steps := isWalk_combinations count k 0 hk
  rwa [Int.zero_add, ← indices_eq_runFrom, ← indices_eq_runFrom] at steps

end Polyhedra
