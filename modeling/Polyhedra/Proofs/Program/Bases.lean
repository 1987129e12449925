import Mathlib
import Polyhedra.Proofs.Partition.Split
import Polyhedra.Proofs.Program.Region

/-!
# Bases of a program

A split is a basis if its columns of `[A | I]` are linearly independent. Since the slack columns alone span everything,
independent columns can always be completed to a basis, and a solution of the equations is known from its non-basic
coordinates. Independence is used in the form that no other vector than zero with these coordinates is mapped to zero.
-/

namespace Polyhedra

open Matrix

variable {m n : Nat} {p : Program Rat m n}

def Split.IsBasis (s : Split m n) (p : Program Rat m n) : Prop :=
  LinearIndependent Rat fun i => p.system.col (s.basicAt i)

theorem Split.isBasis_iff_isUnit (s : Split m n) (p : Program Rat m n) :
    s.IsBasis p ↔ IsUnit (p.system.submatrix id s.basicAt) :=
  linearIndependent_cols_iff_isUnit

namespace Program

theorem system_mulVec_eq_sum (p : Program Rat m n) (w : Fin (n + m) → Rat) :
    p.system *ᵥ w = ∑ k, w k • p.system.col k := by
  rw [mulVec_eq_sum]
  exact Finset.sum_congr rfl fun k _ => op_smul_eq_smul _ _

/-- Columns are independent if only zero is mapped to zero, among the vectors without other coordinates. -/
theorem linearIndepOn_iff {S : Set (Fin (n + m))} : LinearIndepOn Rat p.system.col S ↔
    ∀ w : Fin (n + m) → Rat, p.system *ᵥ w = 0 → (∀ k ∉ S, w k = 0) → w = 0 := by
  classical
  obtain ⟨S, rfl⟩ := S.toFinite.exists_finset_coe
  rw [linearIndepOn_finset_iff]
  have restrict (w : Fin (n + m) → Rat) (outside : ∀ k ∉ (S : Set (Fin (n + m))), w k = 0) :
      ∑ k ∈ S, w k • p.system.col k = p.system *ᵥ w := by
    rw [system_mulVec_eq_sum]
    apply Finset.sum_subset (Finset.subset_univ S)
    intro k _ absent
    rw [outside k absent, zero_smul]
  refine ⟨?_, ?_⟩
  · intro independent w maps outside
    have inside := independent w ((restrict w outside).trans maps)
    funext k
    by_cases hk : k ∈ S
    · exact inside k hk
    · exact outside k hk
  · intro kernel f combination k hk
    have outside : ∀ l ∉ (S : Set (Fin (n + m))), (if l ∈ S then f l else 0) = 0 := fun l hl => if_neg hl
    have same : ∑ l ∈ S, (if l ∈ S then f l else 0) • p.system.col l = 0 := by
      rw [← combination]
      exact Finset.sum_congr rfl fun l hl => by rw [if_pos hl]
    have := congrFun (kernel _ ((restrict _ outside).symm.trans same) outside) k
    rwa [if_pos hk] at this

theorem span_col (p : Program Rat m n) : Submodule.span Rat (Set.range p.system.col) = ⊤ := by
  apply top_unique
  intro v _
  have combination : v = ∑ i, v i • p.system.col (i.natAdd n) := by
    funext l
    rw [Finset.sum_apply, Finset.sum_eq_single l]
    · rw [Pi.smul_apply, col_apply, system, of_apply, Fin.append_right, Pi.single_eq_same, smul_eq_mul, mul_one]
    · intro i _ other
      rw [Pi.smul_apply, col_apply, system, of_apply, Fin.append_right, Pi.single_eq_of_ne other, smul_zero]
    · exact fun absent => absurd (Finset.mem_univ l) absent
  rw [combination]
  exact Submodule.sum_mem _ fun i _ => Submodule.smul_mem _ _ (Submodule.subset_span ⟨_, rfl⟩)

/-- Independent columns are among those of some basis. -/
theorem exists_isBasis {S : Set (Fin (n + m))} (independent : LinearIndepOn Rat p.system.col S) :
    ∃ s : Split m n, s.IsBasis p ∧ ∀ k ∈ S, k ∈ s.basic := by
  classical
  obtain ⟨B, _, sub, spans, indep⟩ := exists_linearIndepOn_extension independent (Set.subset_univ S)
  obtain ⟨B, rfl⟩ := B.toFinite.exists_finset_coe
  have everything : ⊤ ≤ Submodule.span Rat (Set.range fun k : B => p.system.col k) := by
    rw [← p.span_col, Submodule.span_le, ← Set.image_univ]
    refine spans.trans (Submodule.span_mono ?_)
    intro v h
    obtain ⟨k, hk, rfl⟩ := h
    exact ⟨⟨k, hk⟩, rfl⟩
  have card : B.card = m := by
    calc
      B.card = Fintype.card (B : Set (Fin (n + m))) := (Fintype.card_coe B).symm
      _ = Module.finrank Rat (Fin m → Rat) :=
        (Module.finrank_eq_card_basis (Module.Basis.mk indep everything)).symm
      _ = m := Module.finrank_fin_fun Rat
  have inside (i : Fin m) : Split.basicAt ⟨B, card⟩ i ∈ B :=
    (Split.mem_basic (s := ⟨B, card⟩)).2 ⟨i, rfl⟩
  refine ⟨⟨B, card⟩, indep.comp (fun i => ⟨_, inside i⟩) fun i j same => ?_, sub⟩
  exact (Split.basicAt ⟨B, card⟩).injective (congrArg Subtype.val same)

end Program

/-- No other vector than zero is mapped to zero if its non-basic coordinates are zero. -/
theorem Split.IsBasis.eq_zero {s : Split m n} (h : s.IsBasis p) {w : Fin (n + m) → Rat} (maps : p.system *ᵥ w = 0)
    (others : ∀ j, w (s.nonBasicAt j) = 0) : w = 0 := by
  have combination : ∑ i, w (s.basicAt i) • p.system.col (s.basicAt i) = 0 := by
    rw [Program.system_mulVec_eq_sum, s.sum_places] at maps
    rw [← maps, left_eq_add]
    exact Finset.sum_eq_zero fun j _ => by rw [others j, zero_smul]
  exact s.funext_places (Fintype.linearIndependent_iff.1 h _ combination) others

theorem Split.IsBasis.eq_of_places {s : Split m n} (h : s.IsBasis p) {x y : Fin (n + m) → Rat}
    (same : p.system *ᵥ x = p.system *ᵥ y) (others : ∀ j, x (s.nonBasicAt j) = y (s.nonBasicAt j)) : x = y := by
  refine sub_eq_zero.1 (h.eq_zero ?_ fun j => sub_eq_zero.2 (others j))
  rw [mulVec_sub, same, sub_self]

/-- Points are equal if they have the same non-basic coordinates, with the slacks among these. -/
theorem Split.IsBasis.eq_of_withSlacks {s : Split m n} (h : s.IsBasis p) {x y : Fin n → Rat}
    (others : ∀ j, p.withSlacks x (s.nonBasicAt j) = p.withSlacks y (s.nonBasicAt j)) : x = y := by
  have same := h.eq_of_places ((p.system_mulVec_withSlacks x).trans (p.system_mulVec_withSlacks y).symm) others
  rw [← p.structural_withSlacks x, same, Program.structural_withSlacks]

end Polyhedra
