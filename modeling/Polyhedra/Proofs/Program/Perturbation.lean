import Mathlib
import Polyhedra.Proofs.Program.Bases

/-!
# Perturbed bounds

The bounds are raised a little, each by its own power of a small number. The value of a basic variable then is a
polynomial in this number, and not the zero polynomial, because no row of an inverse is zero. So for all small numbers
no basic variable is zero, and one that was negative before still is.
-/

namespace Polyhedra.Program

open Matrix Polynomial Topology

variable {m n : Nat} {p : Program Rat m n}

/-- The program with each bound raised by its own power of a number. -/
def perturbed (p : Program Rat m n) (ε : Rat) : Program Rat m n :=
  { p with bounds := Vector.ofFn fun i => p.bounds.get i + ε ^ ((i : Nat) + 1) }

@[simp] theorem get_bounds_perturbed (p : Program Rat m n) (ε : Rat) (i : Fin m) :
    (p.perturbed ε).bounds.get i = p.bounds.get i + ε ^ ((i : Nat) + 1) :=
  get_ofFn _ _

theorem region_subset_perturbed {ε : Rat} (nonneg : 0 ≤ ε) : p.region ⊆ (p.perturbed ε).region := by
  intro x h
  obtain ⟨positive, below⟩ := h
  refine ⟨positive, below.trans fun i => ?_⟩
  rw [get_bounds_perturbed]
  exact le_add_of_nonneg_right (pow_nonneg nonneg _)

/-- What a row of a matrix makes of the perturbed bounds, as a polynomial. -/
noncomputable def perturbedValue (p : Program Rat m n) (M : Matrix (Fin m) (Fin m) Rat) (i : Fin m) : Rat[X] :=
  C ((M *ᵥ p.bounds.get) i) + ∑ k : Fin m, C (M i k) * X ^ ((k : Nat) + 1)

theorem eval_perturbedValue (M : Matrix (Fin m) (Fin m) Rat) (i : Fin m) (ε : Rat) :
    (p.perturbedValue M i).eval ε = (M *ᵥ (p.perturbed ε).bounds.get) i := by
  rw [perturbedValue, eval_add, eval_C, eval_finsetSum, mulVec, mulVec, dotProduct, dotProduct, ← Finset.sum_add_distrib]
  apply Finset.sum_congr rfl
  intro k _
  rw [get_bounds_perturbed, eval_mul, eval_C, eval_pow, eval_X, mul_add]

theorem perturbedValue_ne_zero {M : Matrix (Fin m) (Fin m) Rat} (h : IsUnit M) (i : Fin m) :
    p.perturbedValue M i ≠ 0 := by
  intro zero
  refine (linearIndependent_rows_iff_isUnit.2 h).ne_zero i (funext fun k => ?_)
  have coefficient : (p.perturbedValue M i).coeff ((k : Nat) + 1) = M i k := by
    rw [perturbedValue, coeff_add, coeff_C_succ, zero_add, finsetSum_coeff, Finset.sum_eq_single k]
    · rw [coeff_C_mul_X_pow, if_pos rfl]
    · intro l _ other
      rw [coeff_C_mul_X_pow, if_neg fun same => other (Fin.ext (Nat.succ.inj same).symm)]
    · exact fun absent => absurd (Finset.mem_univ k) absent
  rw [zero, coeff_zero] at coefficient
  exact coefficient.symm

/-- Of all small numbers only finitely many make a row vanish. -/
theorem eventually_ne_zero {M : Matrix (Fin m) (Fin m) Rat} (h : IsUnit M) (i : Fin m) :
    ∀ᶠ ε in 𝓝[>] (0 : Rat), (M *ᵥ (p.perturbed ε).bounds.get) i ≠ 0 := by
  have finite : ∀ᶠ ε in Filter.cofinite, ¬(p.perturbedValue M i).IsRoot ε :=
    (finite_setOfPred_isRoot (perturbedValue_ne_zero h i)).eventually_cofinite_notMem
  filter_upwards [finite.filter_mono ((nhdsGT_le_nhdsNE 0).trans (nhdsNE_le_cofinite 0))] with ε other
  rwa [IsRoot, eval_perturbedValue] at other

theorem eventually_neg {M : Matrix (Fin m) (Fin m) Rat} {i : Fin m} (negative : (M *ᵥ p.bounds.get) i < 0) :
    ∀ᶠ ε in 𝓝[>] (0 : Rat), (M *ᵥ (p.perturbed ε).bounds.get) i < 0 := by
  have start : (p.perturbedValue M i).eval 0 < 0 := by
    rw [perturbedValue, eval_add, eval_C, eval_finsetSum, Finset.sum_eq_zero, add_zero]
    · exact negative
    · exact fun k _ => by rw [eval_mul, eval_pow, eval_X, zero_pow (Nat.succ_ne_zero _), mul_zero]
  have near := ((p.perturbedValue M i).continuous.tendsto 0).eventually_lt_const start
  filter_upwards [near.filter_mono nhdsWithin_le_nhds] with ε
  rw [eval_perturbedValue]
  exact id

/-- With the perturbed bounds no basic variable of any basis is zero, and the negative ones are still negative. -/
def IsGeneric (p : Program Rat m n) (ε : Rat) : Prop :=
  ∀ s : Split m n, s.IsBasis p → ∀ i,
    ((p.system.submatrix id s.basicAt)⁻¹ *ᵥ (p.perturbed ε).bounds.get) i ≠ 0 ∧
      (((p.system.submatrix id s.basicAt)⁻¹ *ᵥ p.bounds.get) i < 0 →
        ((p.system.submatrix id s.basicAt)⁻¹ *ᵥ (p.perturbed ε).bounds.get) i < 0)

theorem eventually_isGeneric (p : Program Rat m n) : ∀ᶠ ε in 𝓝[>] (0 : Rat), p.IsGeneric ε := by
  refine Filter.eventually_all.2 fun s => Filter.eventually_imp_distrib_left.2 fun isBasis => ?_
  have isUnit := isUnit_nonsing_inv_iff.2 ((s.isBasis_iff_isUnit p).1 isBasis)
  refine Filter.eventually_all.2 fun i => (eventually_ne_zero isUnit i).and ?_
  exact Filter.eventually_imp_distrib_left.2 eventually_neg

theorem exists_isGeneric (p : Program Rat m n) : ∃ ε : Rat, 0 < ε ∧ p.IsGeneric ε := by
  obtain ⟨ε, generic, positive⟩ := (p.eventually_isGeneric.and self_mem_nhdsWithin).exists
  exact ⟨ε, positive, generic⟩

end Polyhedra.Program
