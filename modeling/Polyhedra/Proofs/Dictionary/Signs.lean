import Mathlib
import Polyhedra.Proofs.Decimal.Comparison
import Polyhedra.Proofs.Dictionary.Stages

/-!
# Signs that the flags stand for

The flags of a dictionary are tests of the numbers in its table: no value lies below the negated tolerance, and no cost
above the tolerance. Over doubles a test that fails says less than its opposite, since NaN fails every test. So a value or
a cost that is NaN is passed over, and away from NaN the flags are the signs.
-/

namespace Polyhedra

variable {α : Type} [Scalar α] {m n : Nat}

/-! ### Verdicts as tests -/

namespace Tableau

variable (t : Tableau α m n) (tolerance : α) (basic nonBasic : List Int)

theorem exists_classify_eq_infeasible_iff :
    (∃ index value, t.classify tolerance basic nonBasic = .infeasible index value) ↔
      ∃ i, Scalar.lt (t.values.get i) (-tolerance) = true := by
  rw [classify]
  cases found : (List.finRange m).find? fun i => Scalar.lt (t.values.get i) (-tolerance) with
  | some i =>
    have negative := List.find?_some found
    exact iff_of_true ⟨_, _, rfl⟩ ⟨i, negative⟩
  | none =>
    apply iff_of_false
    · rintro ⟨index, value, verdict⟩
      dsimp only at verdict
      split at verdict
      · cases verdict
      · split at verdict <;> cases verdict
    · rintro ⟨i, negative⟩
      exact List.find?_eq_none.1 found i (List.mem_finRange i) negative

theorem classify_eq_optimal_iff : t.classify tolerance basic nonBasic = .optimal ↔
    (∀ i, Scalar.lt (t.values.get i) (-tolerance) = false) ∧ ∀ j, Scalar.lt tolerance (t.costs.get j) = false := by
  have improves : t.improving tolerance = [] ↔ ∀ j, Scalar.lt tolerance (t.costs.get j) = false := by
    simp [improving, List.filter_eq_nil_iff]
  rw [classify, ← improves]
  cases found : (List.finRange m).find? fun i => Scalar.lt (t.values.get i) (-tolerance) with
  | some i =>
    have negative := List.find?_some found
    apply iff_of_false
    · intro verdict
      cases verdict
    · rintro ⟨pass, _⟩
      rw [pass i] at negative
      cases negative
  | none =>
    have pass (i) : Scalar.lt (t.values.get i) (-tolerance) = false := by
      simpa using List.find?_eq_none.1 found i (List.mem_finRange i)
    rw [and_iff_right pass]
    cases t.improving tolerance with
    | nil => exact iff_of_true rfl rfl
    | cons first others =>
      apply iff_of_false
      · intro verdict
        dsimp only at verdict
        split at verdict <;> cases verdict
      · exact List.cons_ne_nil first others

end Tableau

namespace Dictionary

section Tests

variable {d : Dictionary α} {t : Tableau α d.numConstraints d.numVars} {tolerance : α} {basic nonBasic : List Int}
  (outcome : d.outcome = .evaluated t (t.classify tolerance basic nonBasic))

include outcome

theorem isFeasible_iff_of_outcome :
    d.isFeasible = true ↔ ∀ i, Scalar.lt (t.values.get i) (-tolerance) = false := by
  have tests := t.exists_classify_eq_infeasible_iff tolerance basic nonBasic
  rw [isFeasible, outcome]
  cases verdict : t.classify tolerance basic nonBasic <;> simp_all

theorem isOptimal_iff_of_outcome : d.isOptimal = true ↔ d.isFeasible = true ∧
    ∀ j, Scalar.lt tolerance (t.costs.get j) = false := by
  rw [isFeasible_iff_of_outcome outcome, ← t.classify_eq_optimal_iff tolerance basic nonBasic, isOptimal, outcome]
  cases t.classify tolerance basic nonBasic <;> simp

end Tests

/-- The verdict of a table that is stored is that of the tests. -/
theorem outcome_build (p : Program α m n) (basic nonBasic : List Int) (tolerance pivotTolerance : α) :
    ∀ t, (build p basic nonBasic tolerance pivotTolerance).tableau? = some t →
      (build p basic nonBasic tolerance pivotTolerance).outcome =
        .evaluated t (t.classify tolerance (ascending basic) (ascending nonBasic)) := by
  rw [build]
  cases Partition.check basic nonBasic n m with
  | error fault =>
    intro t stored
    cases stored
  | ok _ =>
    dsimp only [tableau?]
    rw [evaluate]
    cases (p.columns (ascending basic) m).inverse pivotTolerance with
    | error column =>
      intro t stored
      cases stored
    | ok inverse =>
      intro t stored
      obtain rfl := Option.some.inj stored
      rfl

end Dictionary

/-! ### Doubles -/

namespace Dictionary

variable {d : Dictionary Float} {t : Tableau Float d.numConstraints d.numVars} {tolerance : Float}
  {basic nonBasic : List Int}

theorem isFeasible_iff_of_nonneg (nonneg : (0.0 : Float) ≤ tolerance)
    (outcome : d.outcome = .evaluated t (t.classify tolerance basic nonBasic)) :
    d.isFeasible = true ↔ ∀ i, (t.values.get i).isNaN = true ∨ -tolerance ≤ t.values.get i := by
  -- The bound is a number, so that a failed test leaves only the value to be NaN.
  have number : (-tolerance).isNaN = false := (Decimal.isNaN_neg tolerance).trans (Decimal.not_isNaN_of_le nonneg).2
  rw [isFeasible_iff_of_outcome outcome]
  simp only [Scalar.lt_eq_false_iff, number, Bool.false_eq_true, false_or]

theorem isOptimal_iff_of_nonneg (nonneg : (0.0 : Float) ≤ tolerance)
    (outcome : d.outcome = .evaluated t (t.classify tolerance basic nonBasic)) :
    d.isOptimal = true ↔ d.isFeasible = true ∧ ∀ j, (t.costs.get j).isNaN = true ∨ t.costs.get j ≤ tolerance := by
  rw [isOptimal_iff_of_outcome outcome]
  simp only [Scalar.lt_eq_false_iff, (Decimal.not_isNaN_of_le nonneg).2, Bool.false_eq_true, false_or]

theorem not_isNaN_of_mem_point {x : Float} (stored : d.tableau? = some t)
    (values : ∀ i, (t.values.get i).isNaN = false) (mem : x ∈ d.point) : x.isNaN = false := by
  rw [point, stored] at mem
  rcases mem_coordinates mem with rfl | inside
  · rfl
  · obtain ⟨i, hi, rfl⟩ := List.mem_iff_getElem.1 inside
    rw [Vector.length_toList] at hi
    exact values ⟨i, hi⟩

/-- The flags of a basis are the signs of the numbers it stores, where NaN counts as no wrong sign. Without NaN they are
the signs, and no coordinate is NaN. -/
theorem flags_are_signs (a b c : DenseMatrix Float) (basic nonBasic : List Int) (tolerance pivotTolerance : Float)
    (nonneg : (0.0 : Float) ≤ tolerance) (d : Dictionary Float)
    (built : ofMatrices? a b c basic nonBasic tolerance pivotTolerance = .ok d) (basis : d.isBasic = true) :
    ∃ t, d.tableau? = some t ∧
      (d.isFeasible = true ↔ ∀ i, (t.values.get i).isNaN = true ∨ -tolerance ≤ t.values.get i) ∧
      (d.isOptimal = true ↔ d.isFeasible = true ∧ ∀ j, (t.costs.get j).isNaN = true ∨ t.costs.get j ≤ tolerance) ∧
      ((∀ i, (t.values.get i).isNaN = false) →
        (d.isFeasible = true ↔ ∀ i, -tolerance ≤ t.values.get i) ∧ ∀ x ∈ d.point, x.isNaN = false) ∧
      ((∀ j, (t.costs.get j).isNaN = false) →
        (d.isOptimal = true ↔ d.isFeasible = true ∧ ∀ j, t.costs.get j ≤ tolerance)) := by
  obtain ⟨t, stored⟩ := Option.isSome_iff_exists.1 (d.isSome_tableau?.trans basis)
  have outcome : d.outcome = .evaluated t (t.classify tolerance (ascending basic) (ascending nonBasic)) := by
    rw [ofMatrices?] at built
    split at built
    · cases built
    · obtain rfl := Except.ok.inj built
      exact outcome_build _ _ _ _ _ t stored
  have feasible := isFeasible_iff_of_nonneg nonneg outcome
  have optimal := isOptimal_iff_of_nonneg nonneg outcome
  refine ⟨t, stored, feasible, optimal, ?_, ?_⟩
  · intro values
    refine ⟨?_, fun x => not_isNaN_of_mem_point stored values⟩
    simpa only [values, Bool.false_eq_true, false_or] using feasible
  · intro costs
    simpa only [costs, Bool.false_eq_true, false_or] using optimal

/-- A single coefficient that is too small to be inverted: its inverse is infinite. -/
def overflowing? (bound : Float) : Except MatrixFault (Dictionary Float) :=
  ofMatrices? ⟨1, 1, .ofLists 0 [[1e-320]]⟩ ⟨1, 1, .ofLists 0 [[bound]]⟩ ⟨1, 1, .ofLists 0 [[1]]⟩ [0] [1] 0 0

/-- An infinite value has the right sign. -/
theorem flags_of_infinite_are_signs : (0.0 : Float) ≤ 0 ∧ ∃ d t, overflowing? 1 = .ok d ∧ d.isBasic = true ∧
    d.tableau? = some t ∧ d.isFeasible = true ∧ (∀ i, -(0 : Float) ≤ t.values.get i) ∧
    ∀ x ∈ d.point, x.isNaN = false := by
  have nonneg : (0.0 : Float) ≤ 0 := by decide +kernel
  have found : (overflowing? 1).toOption.map (fun d => (d.isBasic, d.isFeasible,
      d.tableau?.map fun t => decide (∀ i, (t.values.get i).isNaN = false))) = some (true, true, some true) := by
    decide +kernel
  cases built : overflowing? 1 with
  | error fault =>
    rw [built] at found
    cases found
  | ok d =>
    rw [built] at found
    obtain ⟨basis, found⟩ := Prod.mk.inj (Option.some.inj found)
    obtain ⟨feasible, numbers⟩ := Prod.mk.inj found
    obtain ⟨t, stored, _, _, signs, _⟩ := flags_are_signs _ _ _ _ _ _ _ nonneg d built basis
    rw [stored] at numbers
    obtain ⟨sign, point⟩ := signs (of_decide_eq_true (Option.some.inj numbers))
    exact ⟨nonneg, d, t, rfl, basis, stored, feasible, sign.1 feasible, point⟩

/-- Zero times the infinite inverse is NaN, and the flags pass it over. -/
theorem nan_is_optimal : ∃ d t, overflowing? 0 = .ok d ∧ d.tableau? = some t ∧ d.isFeasible = true ∧
    d.isOptimal = true ∧ ¬(d.isFeasible = true ↔ ∀ i, -(0 : Float) ≤ t.values.get i) ∧
    ∃ x ∈ d.point, x.isNaN = true := by
  have found : (overflowing? 0).toOption.map (fun d => (d.isFeasible, d.isOptimal, d.point.any Float.isNaN,
      d.tableau?.map fun t => decide (∀ i, -(0 : Float) ≤ t.values.get i))) = some (true, true, true, some false) := by
    decide +kernel
  cases built : overflowing? 0 with
  | error fault =>
    rw [built] at found
    cases found
  | ok d =>
    rw [built] at found
    obtain ⟨feasible, found⟩ := Prod.mk.inj (Option.some.inj found)
    obtain ⟨optimal, found⟩ := Prod.mk.inj found
    obtain ⟨point, found⟩ := Prod.mk.inj found
    obtain ⟨t, stored, negative⟩ := Option.map_eq_some_iff.1 found
    refine ⟨d, t, rfl, stored, feasible, optimal, ?_, List.any_eq_true.1 point⟩
    exact fun same => of_decide_eq_false negative (same.1 feasible)

end Dictionary

end Polyhedra
