import Mathlib
import Polyhedra.Proofs.Decimal.Finite
import Polyhedra.Proofs.Extended.Finite
import Polyhedra.Proofs.Extended.Order
import Polyhedra.Proofs.Verification.Exact

/-!
# What a confirmation says

The greatest distance is a running maximum, and a distance that is NaN is less than nothing and greater than nothing, so
it is passed over. If the solver in use finds only numbers, all that is recomputed for finite data is finite, and only a
stored NaN has such a distance. Hence a confirmed dictionary has the recomputed flags, and each of its numbers is near the
recomputed one or is no number at all.
-/

namespace Polyhedra

open Verification

structure Problem.IsFinite (p : Problem Float) : Prop where
  constraints : ∀ i j, (p.constraints.entry i j).isFinite = true
  bounds : ∀ i, (p.bounds.get i).isFinite = true
  objective : ∀ j, (p.objective.get j).isFinite = true

namespace Extended

variable {bits : Nat} {x y r : Extended bits}

/-! ### The running maximum -/

/-- The greater of two numbers; a second one that is NaN is passed over. -/
theorem le_greater_iff (hx : x ≠ nan) : Scalar.le (if Scalar.lt x y = true then y else x) r = true ↔
    Scalar.le x r = true ∧ (y = nan ∨ Scalar.le y r = true) := by
  by_cases hy : y = nan
  · subst hy
    simp
  · split
    · rename_i less
      simp only [lt_iff, le_iff] at less ⊢
      grind
    · rename_i less
      simp only [lt_iff, le_iff] at less ⊢
      grind

theorem greatestDistance_le_iff {pairs : List (Extended bits × Extended bits)} :
    Scalar.le (greatestDistance pairs) r = true ↔ Scalar.le 0 r = true ∧
      ∀ pair ∈ pairs, Scalar.abs (pair.1 - pair.2) = nan ∨ Scalar.le (Scalar.abs (pair.1 - pair.2)) r = true := by
  -- The greatest distance so far is never NaN: it starts at zero and NaN is greater than nothing.
  have from_ (greatest : Extended bits) (number : greatest ≠ nan) :
      Scalar.le (pairs.foldl (fun greatest pair =>
        let distance := Scalar.abs (pair.1 - pair.2)
        if Scalar.lt greatest distance then distance else greatest) greatest) r = true ↔
      Scalar.le greatest r = true ∧
        ∀ pair ∈ pairs, Scalar.abs (pair.1 - pair.2) = nan ∨ Scalar.le (Scalar.abs (pair.1 - pair.2)) r = true := by
    induction pairs generalizing greatest with
    | nil => simp
    | cons pair pairs ih =>
      have next : (if Scalar.lt greatest (Scalar.abs (pair.1 - pair.2)) = true then Scalar.abs (pair.1 - pair.2)
          else greatest) ≠ nan := by
        split
        · rename_i less
          exact (lt_iff.1 less).2.1
        · exact number
      rw [List.foldl_cons, ih _ next, le_greater_iff number, List.forall_mem_cons, and_assoc]
  exact from_ 0 isFinite_zero.ne_nan

/-- The distance of a double from a finite number is no number only if the double is none. -/
theorem distance_eq_nan_iff (hx : x.IsFinite) (stored : Float) :
    Scalar.abs (x - ofFloat stored) = nan ↔ stored.isNaN = true := by
  rw [← Decimal.decode_eq_nan_iff]
  cases decoded : Decimal.Binary64.decode stored with
  | nan =>
    have same : (ofFloat stored : Extended bits) = nan := by simp only [ofFloat, threshold, decoded]
    obtain ⟨m, e, rfl⟩ := hx
    rw [same]
    exact iff_of_true rfl rfl
  | infinite negative =>
    have same : (ofFloat stored : Extended bits) = infinite negative := by simp only [ofFloat, threshold, decoded]
    obtain ⟨m, e, rfl⟩ := hx
    rw [same]
    have notNan : Scalar.abs (finite m e - infinite negative : Extended bits) ≠ nan := by
      intro same
      cases same
    exact iff_of_false notNan Decimal.Binary64.noConfusion
  | finite negative m e =>
    have finite : (ofFloat stored : Extended bits).IsFinite :=
      isFinite_ofFloat (Decimal.isFinite_iff.2 ⟨negative, m, e, decoded⟩)
    exact iff_of_false (hx.sub finite).abs.ne_nan Decimal.Binary64.noConfusion

end Extended

namespace Verification

variable {α ω : Type} [Scalar ω] {m n k : Nat}

/-- Numbers are confirmed if the greatest distances are small enough and the flags are those that the recomputed numbers
give. -/
theorem compare_confirmed_iff {embed : α → ω} {tolerance residualTolerance : ω} {r : BasisReport α m k}
    {values : Vector ω m} {costs : Vector ω k} :
    (compare embed tolerance residualTolerance r values costs).agreement = .confirmed ↔
      (Scalar.le (greatestDistance ((List.finRange m).map fun i => (values.get i, embed (r.values.get i))))
          residualTolerance = true ∧
        Scalar.le (greatestDistance ((List.finRange k).map fun j => (costs.get j, embed (r.costs.get j))))
          residualTolerance = true) ∧
      (r.isFeasible = true ↔ ∀ i, Scalar.le (-tolerance) (values.get i) = true) ∧
      (r.isFeasible = true → (r.isOptimal = true ↔ ∀ j, Scalar.le (costs.get j) tolerance = true)) := by
  have feasible : (∀ i, Scalar.le (-tolerance) (values.get i) = true) ↔
      ((List.finRange m).all fun i => Scalar.le (-tolerance) (values.get i)) = true := by simp
  have optimal : (∀ j, Scalar.le (costs.get j) tolerance = true) ↔
      ((List.finRange k).all fun j => Scalar.le (costs.get j) tolerance) = true := by simp
  rw [feasible, optimal]
  simp only [compare]
  -- What remains depends on six truth values only.
  generalize (List.finRange m).all (fun i => Scalar.le (-tolerance) (values.get i)) = f
  generalize (List.finRange k).all (fun j => Scalar.le (costs.get j) tolerance) = o
  generalize Scalar.le (greatestDistance ((List.finRange m).map _)) residualTolerance = v
  generalize Scalar.le (greatestDistance ((List.finRange k).map _)) residualTolerance = c
  cases f <;> cases v <;> cases c <;> cases r.isFeasible <;> cases o <;> cases r.isOptimal <;> decide

/-! ### Finite data -/

section Recomputed

variable {bits : Nat} {solve : LinearSolver (Extended bits)} {p : Problem Float}

theorem isFinite_maxObjective (finite : p.IsFinite) (j : Fin p.numVars) : (p.maxObjective.get j).isFinite = true := by
  obtain ⟨m, n, constraints, bounds, objective, sense⟩ := p
  cases sense with
  | max => exact finite.objective j
  | min =>
    simp only [Problem.maxObjective, get_ofFn]
    exact Decimal.isFinite_mul_neg_one (finite.objective j)

theorem isFinite_augmented (finite : p.IsFinite) (i : Fin p.numConstraints) (index : Nat) :
    (Program.augmented (widen .ofFloat p.program) i index : Extended bits).IsFinite := by
  rw [Program.augmented]
  split
  · rw [widen, Grid.entry_map]
    exact Extended.isFinite_ofFloat (finite.constraints i _)
  · split
    · exact Extended.isFinite_one
    · exact Extended.isFinite_zero

theorem isFinite_cost (finite : p.IsFinite) (index : Nat) :
    (Program.cost (widen .ofFloat p.program) index : Extended bits).IsFinite := by
  rw [Program.cost]
  split
  · rename_i inside
    simp only [widen, Vector.getElem_map]
    exact Extended.isFinite_ofFloat (isFinite_maxObjective finite ⟨index, inside⟩)
  · exact Extended.isFinite_zero

theorem isFinite_of_solveBasis? (keeps : solve.KeepsFinite) (finite : p.IsFinite) {basic : List Int}
    {values multipliers : Vector (Extended bits) p.numConstraints}
    (solved : solveBasis? solve (widen .ofFloat p.program) basic = some (values, multipliers)) :
    (∀ i, (values.get i).IsFinite) ∧ ∀ i, (multipliers.get i).IsFinite := by
  simp only [solveBasis?, Option.bind_eq_some_iff, Option.map_eq_some_iff] at solved
  obtain ⟨x, foundValues, y, foundMultipliers, same⟩ := solved
  obtain ⟨rfl, rfl⟩ := Prod.mk.inj same
  constructor
  · apply keeps _ _ _ _ ?_ ?_ foundValues
    · intro i j
      rw [Program.columns, Grid.entry_build]
      exact isFinite_augmented finite i _
    · intro i
      rw [widen, Vector.get_map]
      exact Extended.isFinite_ofFloat (finite.bounds i)
  · apply keeps _ _ _ _ ?_ ?_ foundMultipliers
    · intro i j
      rw [Grid.entry_transpose, Program.columns, Grid.entry_build]
      exact isFinite_augmented finite j _
    · intro i
      rw [Program.costs, get_ofFn]
      exact isFinite_cost finite _

theorem isFinite_reducedCosts (finite : p.IsFinite) {nonBasic : List Int}
    {multipliers : Vector (Extended bits) p.numConstraints} (known : ∀ i, (multipliers.get i).IsFinite) {k : Nat} (j : Fin k) :
    ((reducedCosts (widen .ofFloat p.program) nonBasic multipliers k).get j).IsFinite := by
  rw [reducedCosts, get_ofFn, Program.costs, get_ofFn]
  apply (isFinite_cost finite _).sub
  apply Extended.isFinite_sum
  intro x mem
  obtain ⟨i, _, rfl⟩ := List.mem_map.1 mem
  exact (known i).mul (isFinite_augmented finite i _)

end Recomputed

/-! ### Confirmed dictionaries -/

/-- What a comparison lets pass for a recomputed number: NaN, and every double that is near it. -/
def Passes {bits : Nat} (residualTolerance : Float) (recomputed : Extended bits) (stored : Float) : Prop :=
  stored.isNaN = true ∨
    Scalar.le (Scalar.abs (recomputed - .ofFloat stored)) (.threshold residualTolerance) = true

/-- Recomputed values and costs speak for what is reported. -/
structure Supports {bits : Nat} (tolerance residualTolerance : Float) (values : Vector (Extended bits) m)
    (costs : Vector (Extended bits) k) (r : BasisReport Float m k) : Prop where
  nonneg : Scalar.le 0 (.threshold residualTolerance : Extended bits) = true
  nearValues : ∀ i, Passes residualTolerance (values.get i) (r.values.get i)
  nearCosts : ∀ j, Passes residualTolerance (costs.get j) (r.costs.get j)
  feasible : r.isFeasible = true ↔ ∀ i, Scalar.le (-.threshold tolerance) (values.get i) = true
  optimal : r.isFeasible = true → (r.isOptimal = true ↔ ∀ j, Scalar.le (costs.get j) (.threshold tolerance) = true)

theorem compare_confirmed_iff_supports {bits : Nat} {tolerance residualTolerance : Float}
    {values : Vector (Extended bits) m} {costs : Vector (Extended bits) k} {r : BasisReport Float m k}
    (finiteValues : ∀ i, (values.get i).IsFinite) (finiteCosts : ∀ j, (costs.get j).IsFinite) :
    (compare .ofFloat (.threshold tolerance) (.threshold residualTolerance) r values costs).agreement = .confirmed ↔
      Supports tolerance residualTolerance values costs r := by
  have near {l : Nat} {v : Vector (Extended bits) l} {w : Vector Float l} (finite : ∀ i, (v.get i).IsFinite) :
      Scalar.le (greatestDistance ((List.finRange l).map fun i => (v.get i, Extended.ofFloat (w.get i))))
        (.threshold residualTolerance) = true ↔
      Scalar.le 0 (.threshold residualTolerance : Extended bits) = true ∧
        ∀ i, Passes residualTolerance (v.get i) (w.get i) := by
    rw [Extended.greatestDistance_le_iff]
    simp only [List.forall_mem_map, List.mem_finRange, true_imp_iff, Extended.distance_eq_nan_iff (finite _), Passes]
  rw [compare_confirmed_iff, near finiteValues, near finiteCosts]
  constructor
  · intro h
    exact ⟨h.1.1.1, h.1.1.2, h.1.2.2, h.2.1, h.2.2⟩
  · intro h
    exact ⟨⟨⟨h.nonneg, h.nearValues⟩, h.nonneg, h.nearCosts⟩, h.feasible, h.optimal⟩

theorem verifyDigits_agrees_iff {p : Problem Float} {digits : Int} {solve : LinearSolver (Extended (bitsForDigits digits))}
    (keeps : solve.KeepsFinite) (finite : p.IsFinite) (constrained : 1 ≤ p.numConstraints)
    (tolerance residualTolerance : Float) (r : BasisReport Float p.numConstraints k) :
    (verifyDigits digits solve tolerance residualTolerance p.program (some r)).agrees = true ↔
      ∃ values multipliers, solveBasis? solve (widen .ofFloat p.program) r.basic = some (values, multipliers) ∧
        Supports tolerance residualTolerance values (reducedCosts (widen .ofFloat p.program) r.nonBasic multipliers k) r := by
  simp only [verifyDigits, verify, verifyReport, if_neg (Nat.one_le_iff_ne_zero.1 constrained)]
  cases solved : solveBasis? solve (widen .ofFloat p.program) r.basic with
  | none => simp [Check.agrees]
  | some found =>
    obtain ⟨values, multipliers⟩ := found
    obtain ⟨finiteValues, finiteMultipliers⟩ := isFinite_of_solveBasis? keeps finite solved
    have finiteCosts : ∀ j, ((reducedCosts (widen .ofFloat p.program) r.nonBasic multipliers k).get j).IsFinite :=
      isFinite_reducedCosts finite finiteMultipliers
    have confirmed : (compare .ofFloat (.threshold tolerance) (.threshold residualTolerance) r values
          (reducedCosts (widen .ofFloat p.program) r.nonBasic multipliers k)).agreement = .confirmed ↔ _ :=
      compare_confirmed_iff_supports finiteValues finiteCosts
    simp only [Check.agrees, decide_eq_true_eq, confirmed]
    constructor
    · intro h
      exact ⟨values, multipliers, rfl, h⟩
    · intro h
      obtain ⟨_, _, same, h⟩ := h
      obtain ⟨rfl, rfl⟩ := Prod.mk.inj (Option.some.inj same)
      exact h

theorem areInside_of_mem_indices {count : Nat} {l : List Int} (inside : ∀ i ∈ l, i ∈ indices count) :
    areInside count l = true := by
  rw [areInside, List.all_eq_true]
  intro i mem
  exact decide_eq_true (mem_indices.1 (inside i mem)).2

/-- A dictionary of a valid partition is verified by what it reports. -/
theorem eq_verifyDigits_of_verifyDictionary? {digits : Int} {solve : LinearSolver (Extended (bitsForDigits digits))}
    {tolerance residualTolerance : Float} {p : Problem Float} {basic nonBasic : List Int}
    (valid : Partition.check basic nonBasic p.numVars p.numConstraints = .ok ())
    (constrained : 1 ≤ p.numConstraints) {t : Tableau Float p.numConstraints p.numVars} {verdict : Verdict Float}
    {check : Check (Extended (bitsForDigits digits))}
    (run : verifyDictionary? digits solve tolerance residualTolerance p ⟨_, _, basic, nonBasic, .evaluated t verdict⟩ =
      .ok check) :
    check = verifyDigits digits solve tolerance residualTolerance p.program
      (Dictionary.report? ⟨_, _, basic, nonBasic, .evaluated t verdict⟩) := by
  obtain ⟨_, _, covers⟩ := Partition.check_eq_ok_iff.1 valid
  have inside (l : List Int) (sub : l ⊆ basic ++ nonBasic) : areInside (p.numVars + p.numConstraints) l = true :=
    areInside_of_mem_indices fun i mem => covers.mem_iff.1 (sub mem)
  have verified : verifyForeign? Extended.ofFloat solve (.threshold tolerance) (.threshold residualTolerance) p.program
      ⟨_, _, basic, nonBasic, .evaluated t verdict⟩ = some _ :=
    Dictionary.verifyForeign?_evaluated _ _ _ _ (Nat.one_le_iff_ne_zero.1 constrained)
      (inside basic (List.subset_append_left _ _)) (inside nonBasic (List.subset_append_right _ _))
  have basis : (Dictionary.mk _ _ basic nonBasic (.evaluated t verdict)).isBasic = true := rfl
  rw [verifyDictionary?, basis, if_neg (by decide), if_neg (Nat.one_le_iff_ne_zero.1 constrained)] at run
  cases fault : fault? digits p.program ⟨_, _, basic, nonBasic, .evaluated t verdict⟩ with
  | some fault' => simp [fault] at run
  | none =>
    rw [fault, verified] at run
    exact (Except.ok.inj run).symm

/-- Whatever solver is used that finds only numbers, a report about a program of finite data is confirmed exactly if it has
the recomputed flags and each of its numbers is NaN or near the recomputed one, whatever numbers and flags it has. A
dictionary of a valid partition is confirmed exactly if its report is. Elimination is such a solver. -/
theorem verifyDictionary?_confirms_iff (p : Problem Float) (finite : p.IsFinite) (constrained : 1 ≤ p.numConstraints)
    (digits : Int) (tolerance residualTolerance : Float) :
    (∀ solve : LinearSolver (Extended (bitsForDigits digits)), solve.KeepsFinite →
      (∀ r : BasisReport Float p.numConstraints p.numVars,
        (verifyDigits digits solve tolerance residualTolerance p.program (some r)).agrees = true ↔
          ∃ values multipliers, solveBasis? solve (widen .ofFloat p.program) r.basic = some (values, multipliers) ∧
            Supports tolerance residualTolerance values
              (reducedCosts (widen .ofFloat p.program) r.nonBasic multipliers p.numVars) r) ∧
      ∀ basic nonBasic, Partition.check basic nonBasic p.numVars p.numConstraints = .ok () →
        ∀ (t : Tableau Float p.numConstraints p.numVars) (verdict : Verdict Float) check,
          verifyDictionary? digits solve tolerance residualTolerance p ⟨_, _, basic, nonBasic, .evaluated t verdict⟩ =
            .ok check →
          check = verifyDigits digits solve tolerance residualTolerance p.program
            (Dictionary.report? ⟨_, _, basic, nonBasic, .evaluated t verdict⟩)) ∧
    (guardedSolver (bitsForDigits digits)).KeepsFinite := by
  refine ⟨fun solve keeps => ⟨?_, ?_⟩, keepsFinite_guardedSolver _⟩
  · exact verifyDigits_agrees_iff keeps finite constrained tolerance residualTolerance
  · intro basic nonBasic valid t verdict check run
    exact eq_verifyDigits_of_verifyDictionary? valid constrained run

/-- The greatest `x` with `3 x ≤ 1`. -/
def third : Problem Float :=
  ⟨1, 1, .ofLists 0 [[3]], .replicate 1 1, .replicate 1 1, .max⟩

def roundedThird : Tableau Float 1 1 :=
  ⟨1 / 3, #v[1 / 3], #v[-1 / 3], .ofLists 0 [[-1 / 3]]⟩

theorem verification_confirms_roundedThird : third.IsFinite ∧ 1 ≤ third.numConstraints ∧
    Partition.check [0] [1] (1 : Nat) (1 : Nat) = .ok () ∧
    ∃ check, verifyDictionary? 50 (guardedSolver _) 0 1e-9 third ⟨1, 1, [0], [1], .evaluated roundedThird .optimal⟩ =
        .ok check ∧
      check.agrees = true ∧
      ∃ values multipliers : Vector (Extended (bitsForDigits 50)) 1,
        solveBasis? (guardedSolver _) (widen .ofFloat third.program) [0] = some (values, multipliers) ∧
        Supports 0 1e-9 values (reducedCosts (widen .ofFloat third.program) [1] multipliers 1)
          ⟨[0], [1], roundedThird.values, roundedThird.costs, true, true⟩ := by
  have finite : third.IsFinite := ⟨by decide +kernel, by decide +kernel, by decide +kernel⟩
  have constrained : 1 ≤ third.numConstraints := by decide
  have valid : Partition.check [0] [1] (1 : Nat) (1 : Nat) = .ok () := by decide
  have agrees : (verifyDictionary? 50 (guardedSolver _) 0 1e-9 third
      ⟨1, 1, [0], [1], .evaluated roundedThird .optimal⟩).toOption.map Check.agrees = some true := by decide +kernel
  obtain ⟨any, keeps⟩ := verifyDictionary?_confirms_iff third finite constrained 50 0 1e-9
  obtain ⟨confirmed, verified⟩ := any (guardedSolver _) keeps
  cases run : verifyDictionary? 50 (guardedSolver _) 0 1e-9 third
      ⟨1, 1, [0], [1], .evaluated roundedThird .optimal⟩ with
  | error fault =>
    rw [run] at agrees
    cases agrees
  | ok check =>
    rw [run] at agrees
    have agrees : check.agrees = true := Option.some.inj agrees
    have same : check = verifyDigits 50 (guardedSolver _) 0 1e-9 third.program
        (some ⟨[0], [1], roundedThird.values, roundedThird.costs, true, true⟩) :=
      verified [0] [1] valid roundedThird .optimal check run
    have supported := (confirmed ⟨[0], [1], roundedThird.values, roundedThird.costs, true, true⟩).1 (same ▸ agrees)
    exact ⟨finite, constrained, valid, check, rfl, agrees, supported⟩

/-- The single coefficient is too small to be inverted: its inverse is infinite. -/
def tiny : Problem Float :=
  ⟨1, 1, .ofLists 0 [[1e-320]], #v[0], #v[0], .max⟩

/-- Zero times infinity is NaN, both as basic value and as reduced cost, and is confirmed. -/
theorem verification_confirms_nan : tiny.IsFinite ∧ Partition.check [0] [1] (1 : Nat) (1 : Nat) = .ok () ∧
    ((Dictionary.ofPartition tiny ⟨[0], [1]⟩ 0 0).tableau?.map fun t =>
      (t.values.toList.map Float.isNaN, t.costs.toList.map Float.isNaN)) = some ([true], [true]) ∧
    ((verifyDictionary? 50 (guardedSolver _) 0 1e-9 tiny (Dictionary.ofPartition tiny ⟨[0], [1]⟩ 0 0)).toOption.map
      Check.agrees) = some true := by
  refine ⟨⟨by decide +kernel, by decide +kernel, by decide +kernel⟩, by decide, by decide +kernel, by decide +kernel⟩

end Verification

end Polyhedra
