import Mathlib
import Polyhedra.Partition.Basic
import Polyhedra.Proofs.Partition.Order

/-!
# Splits of the indices

A split is a set of `m` of the `n + m` indices. It stands for the valid partitions with these basic indices, whatever
the order in which they are given: the check accepts exactly the lists that sort to the two ascending lists of a split,
and the partitions in order are those of the splits. Proofs about valid partitions start from a split and never look at
the check again.
-/

namespace Polyhedra

/-! ### What sorting and checking establish -/

theorem insertAscending_pairwise {x : Int} {l : List Int} (h : l.Pairwise (· ≤ ·)) :
    (insertAscending x l).Pairwise (· ≤ ·) := by
  induction l with
  | nil => exact .cons (fun _ h => absurd h List.not_mem_nil) .nil
  | cons y ys ih =>
    rw [List.pairwise_cons] at h
    rw [insertAscending]
    split
    · rename_i hxy
      refine .cons (fun z hz => ?_) (.cons h.1 h.2)
      rcases List.mem_cons.1 hz with rfl | hz
      · exact hxy
      · exact hxy.trans (h.1 z hz)
    · rename_i hxy
      refine .cons (fun z hz => ?_) (ih h.2)
      rcases List.mem_cons.1 ((perm_insertAscending x ys).mem_iff.1 hz) with rfl | hz
      · omega
      · exact h.1 z hz

theorem sortedLE_ascending (l : List Int) : (ascending l).SortedLE := by
  rw [List.sortedLE_iff_pairwise]
  induction l with
  | nil => exact .nil
  | cons x xs ih => exact insertAscending_pairwise ih

theorem ascending_eq_of_perm {l sorted : List Int} (h : l.Perm sorted) (hs : sorted.SortedLT) :
    ascending l = sorted :=
  ((perm_ascending l).trans h).eq_of_sortedLE (sortedLE_ascending l) hs.sortedLE

/-- Lists of the same elements are sorted to one list. -/
theorem ascending_congr {l l' : List Int} (same : l'.Perm l) : ascending l' = ascending l :=
  ((perm_ascending l').trans (same.trans (perm_ascending l).symm)).eq_of_sortedLE (sortedLE_ascending l')
    (sortedLE_ascending l)

namespace Partition

theorem memberFault?_eq_none_iff {members : List Int} {i : Int} : memberFault? members i = none ↔ members.count i = 1 := by
  rw [memberFault?]
  split <;> simp_all

/-- A list of indices passes exactly if it is a rearrangement of all indices. -/
theorem coverageFault?_eq_none_iff {members : List Int} {count : Nat} :
    coverageFault? members count = none ↔ members.Perm (indices count) := by
  have nodup : (indices count).Nodup := (sortedLT_indices count).nodup
  rw [coverageFault?, Option.or_eq_none_iff, List.findSome?_eq_none_iff, List.findSome?_eq_none_iff, Int.toNat_natCast,
    List.perm_iff_count]
  refine ⟨?_, ?_⟩
  · intro h i
    obtain ⟨once, inside⟩ := h
    by_cases hi : i ∈ indices count
    · rw [memberFault?_eq_none_iff.1 (once i hi), List.count_eq_one_of_mem nodup hi]
    · rw [List.count_eq_zero_of_not_mem hi, List.count_eq_zero]
      intro hm
      have := inside i ((perm_ascending members).mem_iff.2 hm)
      rw [mem_indices] at hi
      rw [if_neg hi] at this
      cases this
  · intro same
    refine ⟨?_, ?_⟩
    · intro i hi
      rw [memberFault?_eq_none_iff, same, List.count_eq_one_of_mem nodup hi]
    · intro i hi
      rw [(perm_ascending members).mem_iff, ← List.count_pos_iff, same, List.count_pos_iff, mem_indices] at hi
      rw [if_pos hi]

/-- The check accepts exactly the rearrangements of all indices that are cut at the number of constraints. -/
theorem check_eq_ok_iff {basic nonBasic : List Int} {n m : Nat} :
    check basic nonBasic n m = .ok () ↔
      basic.length = m ∧ nonBasic.length = n ∧ (basic ++ nonBasic).Perm (indices (n + m)) := by
  rw [check]
  split
  · rename_i size
    refine ⟨nofun, fun h => absurd h.1 ?_⟩
    omega
  · split
    · rename_i size
      refine ⟨nofun, fun h => absurd h.2.1 ?_⟩
      omega
    · rw [← coverageFault?_eq_none_iff]
      have sizes : basic.length = m ∧ nonBasic.length = n := by omega
      simp only [sizes, true_and, Nat.cast_add]
      split
      · simp_all
      · simp_all

end Partition

/-! ### Splits -/

/-- A set of `m` basic indices among `n + m`. -/
@[ext] structure Split (m n : Nat) where
  basic : Finset (Fin (n + m))
  card_basic : basic.card = m

namespace Split

variable {m n : Nat} {α : Type}

instance : Finite (Split m n) :=
  Finite.of_injective Split.basic fun _ _ => Split.ext

theorem card_compl (s : Split m n) : s.basicᶜ.card = n := by
  rw [Finset.card_compl, Fintype.card_fin, s.card_basic, Nat.add_sub_cancel]

def basicAt (s : Split m n) : Fin m ↪o Fin (n + m) := s.basic.orderEmbOfFin s.card_basic

def nonBasicAt (s : Split m n) : Fin n ↪o Fin (n + m) := s.basicᶜ.orderEmbOfFin s.card_compl

/-- Every index has its place among the basic or among the non-basic ones. -/
def places (s : Split m n) : Fin m ⊕ Fin n ≃ Fin (n + m) := finSumEquivOfFinset s.card_basic s.card_compl

@[simp] theorem places_inl (s : Split m n) (i : Fin m) : s.places (.inl i) = s.basicAt i :=
  finSumEquivOfFinset_inl _ _ i

@[simp] theorem places_inr (s : Split m n) (j : Fin n) : s.places (.inr j) = s.nonBasicAt j :=
  finSumEquivOfFinset_inr _ _ j

theorem mem_basic {s : Split m n} {k : Fin (n + m)} : k ∈ s.basic ↔ ∃ i, s.basicAt i = k := by
  rw [← Finset.mem_coe, ← Finset.range_orderEmbOfFin s.basic s.card_basic]
  rfl

theorem not_mem_basic {s : Split m n} {k : Fin (n + m)} : k ∉ s.basic ↔ ∃ j, s.nonBasicAt j = k := by
  rw [← Finset.mem_compl, ← Finset.mem_coe, ← Finset.range_orderEmbOfFin s.basicᶜ s.card_compl]
  rfl

theorem basicAt_ne_nonBasicAt (s : Split m n) (i : Fin m) (j : Fin n) : s.basicAt i ≠ s.nonBasicAt j := by
  intro same
  exact not_mem_basic.2 ⟨j, rfl⟩ (mem_basic.2 ⟨i, same⟩)

theorem basicAt_or_nonBasicAt (s : Split m n) (k : Fin (n + m)) :
    (∃ i, s.basicAt i = k) ∨ ∃ j, s.nonBasicAt j = k := by
  rw [← mem_basic, ← not_mem_basic]
  exact em _

theorem funext_places (s : Split m n) {x y : Fin (n + m) → α} (basic : ∀ i, x (s.basicAt i) = y (s.basicAt i))
    (nonBasic : ∀ j, x (s.nonBasicAt j) = y (s.nonBasicAt j)) : x = y := by
  funext k
  rcases s.basicAt_or_nonBasicAt k with ⟨i, rfl⟩ | ⟨j, rfl⟩
  · exact basic i
  · exact nonBasic j

def join (s : Split m n) (basic : Fin m → α) (nonBasic : Fin n → α) : Fin (n + m) → α :=
  Sum.elim basic nonBasic ∘ s.places.symm

@[simp] theorem join_basicAt (s : Split m n) (basic : Fin m → α) (nonBasic : Fin n → α) (i : Fin m) :
    s.join basic nonBasic (s.basicAt i) = basic i := by
  rw [join, ← places_inl, Function.comp_apply, Equiv.symm_apply_apply, Sum.elim_inl]

@[simp] theorem join_nonBasicAt (s : Split m n) (basic : Fin m → α) (nonBasic : Fin n → α) (j : Fin n) :
    s.join basic nonBasic (s.nonBasicAt j) = nonBasic j := by
  rw [join, ← places_inr, Function.comp_apply, Equiv.symm_apply_apply, Sum.elim_inr]

theorem sum_places {β : Type} [AddCommMonoid β] (s : Split m n) (f : Fin (n + m) → β) :
    ∑ k, f k = ∑ i, f (s.basicAt i) + ∑ j, f (s.nonBasicAt j) := by
  rw [← s.places.sum_comp, Fintype.sum_sum_type]
  simp only [places_inl, places_inr]

/-! ### The lists of a split -/

/-- Indices as the integers that a partition is made of. -/
def indexList {k count : Nat} (at_ : Fin k ↪o Fin count) : List Int :=
  List.ofFn fun i => ((at_ i : Nat) : Int)

@[simp] theorem length_indexList {k count : Nat} (at_ : Fin k ↪o Fin count) : (indexList at_).length = k :=
  List.length_ofFn

theorem getD_indexList {k count : Nat} (at_ : Fin k ↪o Fin count) (i : Fin k) :
    (indexList at_).getD i 0 = ((at_ i : Nat) : Int) := by
  rw [indexList, List.getD_eq_getElem _ _ (by simp), List.getElem_ofFn]

theorem mem_indexList {k count : Nat} {at_ : Fin k ↪o Fin count} {i : Int} :
    i ∈ indexList at_ ↔ ∃ j, ((at_ j : Nat) : Int) = i := by
  rw [indexList, List.mem_ofFn]

theorem sortedLT_indexList {k count : Nat} (at_ : Fin k ↪o Fin count) : (indexList at_).SortedLT := by
  rw [List.sortedLT_iff_pairwise, indexList, List.pairwise_ofFn]
  intro i j hij
  exact Int.ofNat_lt.2 (at_.strictMono hij)

theorem ascending_indexList {k count : Nat} (at_ : Fin k ↪o Fin count) : ascending (indexList at_) = indexList at_ :=
  ascending_eq_of_perm (.refl _) (sortedLT_indexList at_)

def partition (s : Split m n) : Partition :=
  ⟨indexList s.basicAt, indexList s.nonBasicAt⟩

theorem mem_partition_basic {s : Split m n} {k : Fin (n + m)} : ((k : Nat) : Int) ∈ s.partition.basic ↔ k ∈ s.basic := by
  rw [partition, mem_indexList, mem_basic]
  simp only [Nat.cast_inj, Fin.val_inj]

theorem mem_partition_nonBasic {s : Split m n} {k : Fin (n + m)} :
    ((k : Nat) : Int) ∈ s.partition.nonBasic ↔ k ∉ s.basic := by
  rw [partition, mem_indexList, not_mem_basic]
  simp only [Nat.cast_inj, Fin.val_inj]

theorem perm_indices_partition (s : Split m n) :
    (s.partition.basic ++ s.partition.nonBasic).Perm (indices (n + m)) := by
  have disjoint : s.partition.basic.Disjoint s.partition.nonBasic := by
    intro i hb hn
    obtain ⟨j, rfl⟩ := mem_indexList.1 hb
    exact mem_partition_nonBasic.1 hn (mem_partition_basic.1 hb)
  have nodup : (s.partition.basic ++ s.partition.nonBasic).Nodup :=
    List.Nodup.append (sortedLT_indexList s.basicAt).nodup (sortedLT_indexList s.nonBasicAt).nodup disjoint
  apply (List.perm_ext_iff_of_nodup nodup (sortedLT_indices (n + m)).nodup).2
  intro i
  rw [List.mem_append, mem_indices]
  refine ⟨?_, ?_⟩
  · intro h
    rcases h with hi | hi
    · obtain ⟨j, rfl⟩ := mem_indexList.1 hi
      omega
    · obtain ⟨j, rfl⟩ := mem_indexList.1 hi
      omega
  · intro h
    obtain ⟨nonneg, below⟩ := h
    have named := mem_partition_basic (s := s) (k := ⟨i.toNat, by omega⟩)
    have others := mem_partition_nonBasic (s := s) (k := ⟨i.toNat, by omega⟩)
    rw [Int.toNat_of_nonneg nonneg] at named others
    rw [named, others]
    exact em _

theorem check_partition (s : Split m n) : Partition.check s.partition.basic s.partition.nonBasic n m = .ok () :=
  Partition.check_eq_ok_iff.2 ⟨length_indexList _, length_indexList _, s.perm_indices_partition⟩

def namedIndices (l : List Int) (count : Nat) : Finset (Fin count) :=
  Finset.univ.filter fun k => ((k : Nat) : Int) ∈ l

theorem mem_namedIndices {l : List Int} {count : Nat} {k : Fin count} :
    k ∈ namedIndices l count ↔ ((k : Nat) : Int) ∈ l := by
  simp [namedIndices]

theorem card_namedIndices {l : List Int} {count : Nat} (nodup : l.Nodup) (inside : ∀ i ∈ l, 0 ≤ i ∧ i < (count : Int)) :
    (namedIndices l count).card = l.length := by
  have image : (namedIndices l count).image (fun k : Fin count => ((k : Nat) : Int)) = l.toFinset := by
    ext i
    rw [Finset.mem_image, List.mem_toFinset]
    refine ⟨?_, ?_⟩
    · intro h
      obtain ⟨k, hk, rfl⟩ := h
      exact mem_namedIndices.1 hk
    · intro hi
      obtain ⟨nonneg, below⟩ := inside i hi
      refine ⟨⟨i.toNat, by omega⟩, mem_namedIndices.2 ?_, Int.toNat_of_nonneg nonneg⟩
      rwa [Int.toNat_of_nonneg nonneg]
  calc
    (namedIndices l count).card = ((namedIndices l count).image fun k : Fin count => ((k : Nat) : Int)).card :=
      (Finset.card_image_of_injective _ (Nat.cast_injective.comp Fin.val_injective)).symm
    _ = l.toFinset.card := congrArg Finset.card image
    _ = l.length := List.toFinset_card_of_nodup nodup

theorem exists_perm_basic {basic : List Int} (nodup : basic.Nodup) (size : basic.length = m)
    (inside : ∀ i ∈ basic, 0 ≤ i ∧ i < ((n + m : Nat) : Int)) :
    ∃ s : Split m n, basic.Perm s.partition.basic := by
  have card : (namedIndices basic (n + m)).card = m := (card_namedIndices nodup inside).trans size
  refine ⟨⟨namedIndices basic (n + m), card⟩, (List.perm_ext_iff_of_nodup nodup (sortedLT_indexList _).nodup).2 ?_⟩
  intro i
  refine ⟨?_, ?_⟩
  · intro hi
    obtain ⟨nonneg, below⟩ := inside i hi
    have named := mem_partition_basic (s := ⟨namedIndices basic (n + m), card⟩) (k := ⟨i.toNat, by omega⟩)
    rw [mem_namedIndices, Int.toNat_of_nonneg nonneg] at named
    exact named.2 hi
  · intro hi
    obtain ⟨j, rfl⟩ := mem_indexList.1 hi
    exact mem_namedIndices.1 (mem_partition_basic.1 hi)

/-- Valid lists sort to the lists of the split with these basic indices. -/
theorem exists_of_check {basic nonBasic : List Int} (valid : Partition.check basic nonBasic n m = .ok ()) :
    ∃ s : Split m n, ascending basic = s.partition.basic ∧ ascending nonBasic = s.partition.nonBasic := by
  obtain ⟨size, _, all⟩ := Partition.check_eq_ok_iff.1 valid
  have nodup : (basic ++ nonBasic).Nodup := all.nodup_iff.2 (sortedLT_indices (n + m)).nodup
  obtain ⟨s, same⟩ := exists_perm_basic (List.nodup_append.1 nodup).1 size fun i hi =>
    mem_indices.1 (all.subset (List.mem_append_left _ hi))
  refine ⟨s, ascending_eq_of_perm same (sortedLT_indexList _), ascending_eq_of_perm ?_ (sortedLT_indexList _)⟩
  have rest := all.trans (s.perm_indices_partition.symm.trans (same.symm.append_right _))
  exact (List.perm_append_left_iff basic).1 rest

theorem complement_partition (s : Split m n) : Partition.complement s.partition.basic (n + m) = s.partition.nonBasic := by
  apply ((sortedLT_indices (n + m)).pairwise.filter _).sortedLT.eq_of_mem_iff (sortedLT_indexList _)
  intro i
  rw [List.mem_filter, Bool.not_eq_true', List.contains_eq_mem, decide_eq_false_iff_not,
    ← s.perm_indices_partition.mem_iff, List.mem_append]
  refine ⟨?_, ?_⟩
  · exact fun h => h.1.resolve_left h.2
  · intro hi
    obtain ⟨j, rfl⟩ := mem_indexList.1 hi
    exact ⟨.inr hi, fun h => mem_partition_nonBasic.1 hi (mem_partition_basic.1 h)⟩

theorem mem_all {p : Partition} : p ∈ Partition.all n m ↔ ∃ s : Split m n, s.partition = p := by
  rw [Partition.all, List.mem_map]
  refine ⟨?_, ?_⟩
  · intro h
    obtain ⟨basic, hb, rfl⟩ := h
    have selection := mem_combinations_indices.1 hb
    obtain ⟨s, same⟩ := exists_perm_basic selection.sorted.nodup selection.length_eq selection.inside
    obtain rfl := same.eq_of_sortedLE selection.sorted.sortedLE (sortedLT_indexList _).sortedLE
    exact ⟨s, congrArg (Partition.mk _) s.complement_partition.symm⟩
  · intro h
    obtain ⟨s, rfl⟩ := h
    refine ⟨s.partition.basic, mem_combinations_indices.2 ⟨sortedLT_indexList _, length_indexList _, ?_⟩, ?_⟩
    · exact fun i hi => mem_indices.1 (s.perm_indices_partition.subset (List.mem_append_left _ hi))
    · exact congrArg (Partition.mk _) s.complement_partition

end Split

end Polyhedra
