import Mathlib
import Polyhedra.Proofs.Dictionary.Identity

/-!
# What the classification of a dictionary certifies

The signs in the table of a basis decide about the whole region. Values that are not negative put the basic solution
into the region, costs that are not positive bound the objective by its value there, and an improving column without a
falling basic variable is a ray along which the objective has no bound. All of this follows from the description of
the solutions by the table.
-/

namespace Polyhedra

open Matrix

variable {m n : Nat}

/-! ### Coordinates of a basic solution -/

/-- Put a value at its index, unless this is a slack. -/
def placed {α : Type} (numVars : Nat) (point : List α) (entry : Int × α) : List α :=
  if entry.1 < (numVars : Int) then point.set entry.1.toNat entry.2 else point

theorem length_placed {α : Type} (numVars : Nat) (point : List α) (entry : Int × α) :
    (placed numVars point entry).length = point.length := by
  rw [placed]
  split
  · exact List.length_set
  · rfl

theorem length_foldl_placed {α : Type} (numVars : Nat) (entries : List (Int × α)) (point : List α) :
    (entries.foldl (placed numVars) point).length = point.length := by
  induction entries generalizing point with
  | nil => rfl
  | cons entry entries ih => rw [List.foldl_cons, ih, length_placed]

/-- What stands in a point in the end stood there before, or was put there. -/
theorem mem_foldl_placed {α : Type} {numVars : Nat} {entries : List (Int × α)} {point : List α} {x : α}
    (mem : x ∈ entries.foldl (placed numVars) point) : x ∈ point ∨ ∃ entry ∈ entries, x = entry.2 := by
  induction entries generalizing point with
  | nil => exact .inl mem
  | cons entry entries ih =>
    rcases ih mem with before | ⟨later, inside, same⟩
    · rw [placed] at before
      split at before
      · rcases List.mem_or_eq_of_mem_set before with before | same
        · exact .inl before
        · exact .inr ⟨entry, List.mem_cons_self, same⟩
      · exact .inl before
    · exact .inr ⟨later, List.mem_cons_of_mem _ inside, same⟩

theorem getElem?_foldl_placed_of_absent {α : Type} {numVars j : Nat} {entries : List (Int × α)} {point : List α}
    (absent : ∀ entry ∈ entries, entry.1.toNat ≠ j) : (entries.foldl (placed numVars) point)[j]? = point[j]? := by
  induction entries generalizing point with
  | nil => rfl
  | cons entry entries ih =>
    rw [List.foldl_cons, ih fun e he => absent e (List.mem_cons_of_mem _ he), placed]
    split
    · exact List.getElem?_set_ne (absent entry List.mem_cons_self)
    · rfl

theorem getElem?_foldl_placed {α : Type} {numVars j : Nat} {x : α} {entries : List (Int × α)} {point : List α}
    (distinct : entries.Pairwise fun e f => e.1.toNat ≠ f.1.toNat) (mem : ((j : Int), x) ∈ entries)
    (inside : j < numVars) (room : numVars ≤ point.length) : (entries.foldl (placed numVars) point)[j]? = some x := by
  induction entries generalizing point with
  | nil => cases mem
  | cons entry entries ih =>
    rw [List.pairwise_cons] at distinct
    rw [List.foldl_cons]
    rcases List.mem_cons.1 mem with rfl | mem
    · have absent : ∀ e ∈ entries, e.1.toNat ≠ j := fun e he => (distinct.1 e he).symm
      rw [getElem?_foldl_placed_of_absent absent, placed, if_pos (Int.ofNat_lt.2 inside)]
      exact List.getElem?_set_self (inside.trans_le room)
    · exact ih distinct.2 mem (room.trans_eq (length_placed _ _ _).symm)

/-- The coordinates of a basic solution: the basic values at their indices, and zero elsewhere. -/
theorem coordinates_partition {α : Type} [Zero α] (s : Split m n) (values : Vector α m) :
    coordinates s.partition.basic values.toList n = List.ofFn fun j => s.join values.get 0 (Fin.castAdd m j) := by
  have pairs : s.partition.basic.zip values.toList =
      List.ofFn fun i => (((s.basicAt i : Nat) : Int), values.get i) := by
    apply List.ext_getElem (by simp [Split.partition])
    intro i _ _
    simp [Split.partition, Split.indexList, Vector.get]
  have distinct : (List.ofFn fun i => (((s.basicAt i : Nat) : Int), values.get i)).Pairwise
      fun e f => e.1.toNat ≠ f.1.toNat := by
    rw [List.pairwise_ofFn]
    intro i j hij same
    exact hij.ne (s.basicAt.injective (Fin.ext same))
  change (s.partition.basic.zip values.toList).foldl (placed n) (List.replicate n 0) = _
  rw [pairs]
  apply List.ext_getElem?
  intro j
  by_cases hj : j < n
  · rw [List.getElem?_ofFn, dif_pos hj]
    rcases s.basicAt_or_nonBasicAt (Fin.castAdd m ⟨j, hj⟩) with ⟨i, hi⟩ | ⟨l, hl⟩
    · have place : (j : Int) = ((s.basicAt i : Nat) : Int) := by rw [hi]; rfl
      rw [← hi, s.join_basicAt]
      refine getElem?_foldl_placed distinct ?_ hj (by rw [List.length_replicate])
      rw [place]
      exact List.mem_ofFn.2 ⟨i, rfl⟩
    · rw [← hl, s.join_nonBasicAt, getElem?_foldl_placed_of_absent]
      · simp [hj]
      · intro entry mem same
        obtain ⟨i, rfl⟩ := List.mem_ofFn.1 mem
        exact s.basicAt_ne_nonBasicAt i l (Fin.ext (by rw [hl]; exact same))
  · rw [List.getElem?_ofFn, dif_neg hj, List.getElem?_eq_none]
    rw [length_foldl_placed, List.length_replicate]
    exact not_lt.1 hj

/-! ### What the signs of a table say -/

namespace Tableau

/-- What a verdict says about the signs in a table. -/
def Says (t : Tableau Rat m n) (tolerance : Rat) (basic nonBasic : List Int) : Verdict Rat → Prop
  | .infeasible index value => ∃ i : Fin m, index = basic.getD i 0 ∧ value = t.values.get i ∧ value < -tolerance
  | .optimal => (∀ i, -tolerance ≤ t.values.get i) ∧ ∀ j, t.costs.get j ≤ tolerance
  | .unbounded index => (∀ i, -tolerance ≤ t.values.get i) ∧ ∃ j : Fin n, index = nonBasic.getD j 0 ∧
      tolerance < t.costs.get j ∧ ∀ i, -tolerance ≤ t.coefficients.entry i j
  | .suboptimal _ => (∀ i, -tolerance ≤ t.values.get i) ∧ (∃ j, tolerance < t.costs.get j) ∧
      ∀ j, tolerance < t.costs.get j → ∃ i, t.coefficients.entry i j < -tolerance

theorem mem_improving {t : Tableau Rat m n} {tolerance : Rat} {j : Fin n} :
    j ∈ t.improving tolerance ↔ tolerance < t.costs.get j := by
  rw [improving, List.mem_filter, Scalar.lt_iff]
  exact and_iff_right (List.mem_finRange j)

theorem isRay_iff {t : Tableau Rat m n} {tolerance : Rat} {j : Fin n} :
    t.isRay tolerance j = true ↔ ∀ i, -tolerance ≤ t.coefficients.entry i j := by
  rw [isRay, List.all_eq_true]
  simp only [List.mem_finRange, true_imp_iff, Scalar.le_iff]

theorem says_classify (t : Tableau Rat m n) (tolerance : Rat) (basic nonBasic : List Int) :
    t.Says tolerance basic nonBasic (t.classify tolerance basic nonBasic) := by
  rw [classify]
  split
  · rename_i i negative
    have below := List.find?_some negative
    exact ⟨i, rfl, rfl, (Scalar.lt_iff _ _).1 below⟩
  · rename_i noneBelow
    have feasible (i : Fin m) : -tolerance ≤ t.values.get i := by
      have := List.find?_eq_none.1 noneBelow i (List.mem_finRange i)
      rw [Scalar.lt_iff] at this
      exact not_lt.1 this
    split
    · rename_i noneImproves
      refine ⟨feasible, fun j => not_lt.1 fun positive => ?_⟩
      rw [← mem_improving, noneImproves] at positive
      cases positive
    · rename_i first others columns
      split
      · rename_i j found
        have improves : j ∈ t.improving tolerance := columns ▸ List.mem_of_find?_eq_some found
        have rises := List.find?_some found
        exact ⟨feasible, j, rfl, mem_improving.1 improves, isRay_iff.1 rises⟩
      · rename_i noneRises
        refine ⟨feasible, ⟨first, mem_improving.1 (columns ▸ List.mem_cons_self)⟩, fun j positive => ?_⟩
        have := List.find?_eq_none.1 noneRises j (columns ▸ mem_improving.2 positive)
        rw [isRay_iff] at this
        push Not at this
        exact this

def solution (t : Tableau Rat m n) (s : Split m n) (y : Fin n → Rat) : Fin (n + m) → Rat :=
  s.join (t.values.get + t.coefficients.toMatrix *ᵥ y) y

namespace Describes

variable {t : Tableau Rat m n} {p : Program Rat m n} {s : Split m n}

theorem system_mulVec_solution (h : t.Describes p s) (y : Fin n → Rat) : p.system *ᵥ t.solution s y = p.bounds.get := by
  rw [h.solutions]
  have others : t.solution s y ∘ s.nonBasicAt = y := funext fun j => s.join_nonBasicAt _ _ j
  rw [others]
  exact funext fun i => s.join_basicAt _ _ i

theorem eq_solution (h : t.Describes p s) {x : Fin (n + m) → Rat} (solves : p.system *ᵥ x = p.bounds.get) :
    x = t.solution s (x ∘ s.nonBasicAt) := by
  refine s.funext_places (fun i => ?_) fun j => ?_
  · rw [solution, s.join_basicAt, ← (h.solutions x).1 solves]
    rfl
  · rw [solution, s.join_nonBasicAt]
    rfl

theorem value_solution (h : t.Describes p s) (y : Fin n → Rat) :
    p.value (Program.structural (t.solution s y)) = t.zeta + t.costs.get ⬝ᵥ y := by
  have others : t.solution s y ∘ s.nonBasicAt = y := funext fun j => s.join_nonBasicAt _ _ j
  rw [← p.fullObjective_dotProduct, h.objective _ (h.system_mulVec_solution y), others]

theorem withSlacks_solution (h : t.Describes p s) (y : Fin n → Rat) :
    p.withSlacks (Program.structural (t.solution s y)) = t.solution s y :=
  Program.withSlacks_structural (h.system_mulVec_solution y)

theorem solution_mem_region (h : t.Describes p s) {y : Fin n → Rat} (nonneg : 0 ≤ y)
    (basic : ∀ i, 0 ≤ t.values.get i + (t.coefficients.toMatrix *ᵥ y) i) :
    Program.structural (t.solution s y) ∈ p.region := by
  apply p.structural_mem_region (h.system_mulVec_solution y)
  intro k
  rcases s.basicAt_or_nonBasicAt k with ⟨i, rfl⟩ | ⟨j, rfl⟩
  · rw [solution, s.join_basicAt]
    exact basic i
  · rw [solution, s.join_nonBasicAt]
    exact nonneg j

/-! ### The basic solution -/

theorem basicSolution_mem_region_iff (h : t.Describes p s) :
    Program.structural (t.solution s 0) ∈ p.region ↔ ∀ i, 0 ≤ t.values.get i := by
  refine ⟨?_, ?_⟩
  · intro mem i
    rw [p.mem_region_iff, h.withSlacks_solution] at mem
    have := mem (s.basicAt i)
    rwa [solution, s.join_basicAt, mulVec_zero, add_zero] at this
  · intro nonneg
    apply h.solution_mem_region le_rfl
    intro i
    rw [mulVec_zero, Pi.zero_apply, add_zero]
    exact nonneg i

theorem value_basicSolution (h : t.Describes p s) : p.value (Program.structural (t.solution s 0)) = t.zeta := by
  rw [h.value_solution, dotProduct_zero, add_zero]

theorem value_le_zeta (h : t.Describes p s) (costs : ∀ j, t.costs.get j ≤ 0) {x : Fin n → Rat} (mem : x ∈ p.region) :
    p.value x ≤ t.zeta := by
  have nonneg := (p.mem_region_iff x).1 mem
  calc
    p.value x = p.fullObjective ⬝ᵥ p.withSlacks x := by rw [p.fullObjective_dotProduct, p.structural_withSlacks]
    _ = t.zeta + t.costs.get ⬝ᵥ (p.withSlacks x ∘ s.nonBasicAt) := h.objective _ (p.system_mulVec_withSlacks x)
    _ ≤ t.zeta := by
      have : t.costs.get ⬝ᵥ (p.withSlacks x ∘ s.nonBasicAt) ≤ 0 :=
        Finset.sum_nonpos fun j _ => mul_nonpos_of_nonpos_of_nonneg (costs j) (nonneg (s.nonBasicAt j))
      linarith

/-- Along an improving column without a falling basic variable the objective passes every bound. -/
theorem exists_value_gt (h : t.Describes p s) (values : ∀ i, 0 ≤ t.values.get i) {j : Fin n}
    (improves : 0 < t.costs.get j) (rises : ∀ i, 0 ≤ t.coefficients.entry i j) (bound : Rat) :
    ∃ step : Rat, 0 < step ∧ Program.structural (t.solution s (Pi.single j step)) ∈ p.region ∧
      bound < p.value (Program.structural (t.solution s (Pi.single j step))) := by
  obtain ⟨step, hstep⟩ := exists_gt (max 0 ((bound - t.zeta) / t.costs.get j))
  obtain ⟨positive, far⟩ := max_lt_iff.1 hstep
  refine ⟨step, positive, h.solution_mem_region ?_ fun i => ?_, ?_⟩
  · exact Pi.single_nonneg.2 positive.le
  · rw [mulVec_single]
    exact add_nonneg (values i) (mul_nonneg (rises i) positive.le)
  · rw [h.value_solution, dotProduct_single]
    rw [div_lt_iff₀ improves] at far
    linarith

end Describes

end Tableau

namespace Dictionary

/-! ### Flags in terms of the table -/

section Flags

variable {t : Tableau Rat m n} {tolerance : Rat} {basic nonBasic : List Int} {verdict : Verdict Rat}

theorem isFeasible_evaluated_iff (reads : t.Says tolerance basic nonBasic verdict) :
    (⟨m, n, basic, nonBasic, .evaluated t verdict⟩ : Dictionary Rat).isFeasible = true ↔
      ∀ i, -tolerance ≤ t.values.get i := by
  cases verdict with
  | infeasible index value =>
    obtain ⟨i, _, rfl, negative⟩ := reads
    exact ⟨nofun, fun h => absurd (h i) (not_le.2 negative)⟩
  | optimal => exact iff_of_true rfl reads.1
  | unbounded index => exact iff_of_true rfl reads.1
  | suboptimal count => exact iff_of_true rfl reads.1

theorem isOptimal_evaluated_iff (reads : t.Says tolerance basic nonBasic verdict) :
    (⟨m, n, basic, nonBasic, .evaluated t verdict⟩ : Dictionary Rat).isOptimal = true ↔
      (∀ i, -tolerance ≤ t.values.get i) ∧ ∀ j, t.costs.get j ≤ tolerance := by
  cases verdict with
  | infeasible index value =>
    obtain ⟨i, _, rfl, negative⟩ := reads
    exact ⟨nofun, fun h => absurd (h.1 i) (not_le.2 negative)⟩
  | optimal => exact iff_of_true rfl reads
  | unbounded index =>
    obtain ⟨_, j, _, improves, _⟩ := reads
    exact ⟨nofun, fun h => absurd (h.2 j) (not_le.2 improves)⟩
  | suboptimal count =>
    obtain ⟨_, ⟨j, improves⟩, _⟩ := reads
    exact ⟨nofun, fun h => absurd (h.2 j) (not_le.2 improves)⟩

theorem isUnbounded_evaluated_iff (reads : t.Says tolerance basic nonBasic verdict) :
    (⟨m, n, basic, nonBasic, .evaluated t verdict⟩ : Dictionary Rat).isUnbounded = true ↔
      (∀ i, -tolerance ≤ t.values.get i) ∧
        ∃ j, tolerance < t.costs.get j ∧ ∀ i, -tolerance ≤ t.coefficients.entry i j := by
  cases verdict with
  | infeasible index value =>
    obtain ⟨i, _, rfl, negative⟩ := reads
    exact ⟨nofun, fun h => absurd (h.1 i) (not_le.2 negative)⟩
  | optimal =>
    refine ⟨nofun, ?_⟩
    intro h
    obtain ⟨_, j, improves, _⟩ := h
    exact absurd (reads.2 j) (not_le.2 improves)
  | unbounded index =>
    obtain ⟨feasible, j, _, improves, rises⟩ := reads
    exact iff_of_true rfl ⟨feasible, j, improves, rises⟩
  | suboptimal count =>
    refine ⟨nofun, ?_⟩
    intro h
    obtain ⟨_, j, improves, rises⟩ := h
    obtain ⟨i, falls⟩ := reads.2.2 j improves
    exact absurd (rises i) (not_le.2 falls)

/-- The variable that is named as unbounded belongs to an improving column without a falling basic variable. -/
theorem unboundedVariable?_evaluated (reads : t.Says tolerance basic nonBasic verdict)
    (h : (⟨m, n, basic, nonBasic, .evaluated t verdict⟩ : Dictionary Rat).isUnbounded = true) :
    ∃ j : Fin n, (⟨m, n, basic, nonBasic, .evaluated t verdict⟩ : Dictionary Rat).unboundedVariable? =
      some (nonBasic.getD j 0) ∧ tolerance < t.costs.get j ∧ ∀ i, -tolerance ≤ t.coefficients.entry i j := by
  cases verdict with
  | infeasible index value => cases h
  | optimal => cases h
  | suboptimal count => cases h
  | unbounded index =>
    obtain ⟨_, j, rfl, column⟩ := reads
    exact ⟨j, rfl, column⟩

end Flags

/-! ### Certificates -/

/-- What the flags of a dictionary certify about a program, with `x` as its point, where all non-basic variables are
zero: the point lies in the region exactly if the dictionary is feasible, the stated value is the objective's there, an
optimal dictionary bounds the objective over the region, and an unbounded one names a non-basic variable that can grow
alone, in the region, until the objective passes any bound. -/
structure Certifies (d : Dictionary Rat) (p : Program Rat m n) (x : Fin n → Rat) : Prop where
  point : d.point = List.ofFn x
  nonBasic : ∀ k : Fin (n + m), ((k : Nat) : Int) ∈ d.nonBasic → p.withSlacks x k = 0
  feasible : d.isFeasible = true ↔ x ∈ p.region
  zeta : d.zeta? = some (p.value x)
  optimal : d.isOptimal = true → x ∈ p.region ∧ ∀ y ∈ p.region, p.value y ≤ p.value x
  unbounded : d.isUnbounded = true → ∃ k : Fin (n + m), d.unboundedVariable? = some ((k : Nat) : Int) ∧
    ((k : Nat) : Int) ∈ d.nonBasic ∧ ∀ bound, ∃ y ∈ p.region, bound < p.value y ∧ ∃ step : Rat, 0 < step ∧
      ∀ l : Fin (n + m), ((l : Nat) : Int) ∈ d.nonBasic →
        p.withSlacks y l = p.withSlacks x l + if l = k then step else 0

theorem certifies_of_describes {p : Program Rat m n} {s : Split m n} {t : Tableau Rat m n} {verdict : Verdict Rat}
    (h : t.Describes p s) (reads : t.Says 0 s.partition.basic s.partition.nonBasic verdict) :
    Certifies ⟨m, n, s.partition.basic, s.partition.nonBasic, .evaluated t verdict⟩ p
      (Program.structural (t.solution s 0)) := by
  have feasible := isFeasible_evaluated_iff reads
  rw [neg_zero, ← h.basicSolution_mem_region_iff] at feasible
  constructor
  · have coordinates := coordinates_partition s t.values
    rw [Tableau.solution, mulVec_zero, add_zero]
    exact coordinates
  · intro k hk
    obtain ⟨j, rfl⟩ := Split.not_mem_basic.1 (Split.mem_partition_nonBasic.1 hk)
    rw [h.withSlacks_solution, Tableau.solution, s.join_nonBasicAt, Pi.zero_apply]
  · exact feasible
  · rw [h.value_basicSolution]
    rfl
  · intro optimal
    rw [isOptimal_evaluated_iff reads, neg_zero, ← h.basicSolution_mem_region_iff] at optimal
    rw [h.value_basicSolution]
    exact ⟨optimal.1, fun y mem => h.value_le_zeta optimal.2 mem⟩
  · intro unbounded
    have values := ((isUnbounded_evaluated_iff reads).1 unbounded).1
    obtain ⟨j, named, improves, rises⟩ := unboundedVariable?_evaluated reads unbounded
    rw [show s.partition.nonBasic.getD j 0 = _ from Split.getD_indexList s.nonBasicAt j] at named
    rw [neg_zero] at values rises
    refine ⟨s.nonBasicAt j, named, Split.mem_indexList.2 ⟨j, rfl⟩, fun bound => ?_⟩
    obtain ⟨step, positive, mem, far⟩ := h.exists_value_gt values improves rises bound
    refine ⟨_, mem, far, step, positive, fun l hl => ?_⟩
    obtain ⟨i, rfl⟩ := Split.not_mem_basic.1 (Split.mem_partition_nonBasic.1 hl)
    rw [h.withSlacks_solution, h.withSlacks_solution, Tableau.solution, Tableau.solution, s.join_nonBasicAt,
      s.join_nonBasicAt, Pi.zero_apply, zero_add, Pi.single_apply]
    exact if_congr s.nonBasicAt.injective.eq_iff.symm rfl rfl

theorem exists_certifies {p : Program Rat m n} {basic nonBasic : List Int} {pivotTolerance : Rat}
    (valid : Partition.check basic nonBasic n m = .ok ()) (nonneg : 0 ≤ pivotTolerance)
    (isBasis : (build p basic nonBasic 0 pivotTolerance).isBasic = true) :
    ∃ x, Certifies (build p basic nonBasic 0 pivotTolerance) p x := by
  obtain ⟨s, _, _, built⟩ := build_of_valid p 0 pivotTolerance valid
  rw [built] at isBasis ⊢
  rcases evaluate_cases nonneg p s 0 with missing | ⟨inverse, inv, found⟩
  · rw [missing] at isBasis
    cases isBasis
  · rw [found]
    exact ⟨_, certifies_of_describes (p.table_describes inv) (Tableau.says_classify _ _ _ _)⟩

theorem isBasic_of_isFeasible {d : Dictionary Rat} (h : d.isFeasible = true) : d.isBasic = true := by
  obtain ⟨_, _, _, _, outcome⟩ := d
  cases outcome with
  | evaluated t verdict => rfl
  | _ => cases h

theorem isFeasible_of_isOptimal {d : Dictionary Rat} (h : d.isOptimal = true) : d.isFeasible = true := by
  obtain ⟨_, _, _, _, outcome⟩ := d
  cases outcome with
  | evaluated t verdict =>
    cases verdict with
    | optimal => rfl
    | _ => cases h
  | _ => cases h

theorem isFeasible_of_isUnbounded {d : Dictionary Rat} (h : d.isUnbounded = true) : d.isFeasible = true := by
  obtain ⟨_, _, _, _, outcome⟩ := d
  cases outcome with
  | evaluated t verdict =>
    cases verdict with
    | unbounded index => rfl
    | _ => cases h
  | _ => cases h

/-- Every dictionary of a basis certifies its point, whatever the pivot tolerance; and against an optimal dictionary no
other valid partition of the same program has another optimal value or is unbounded. -/
theorem classification_is_certificate (p : Program Rat m n) (basic nonBasic : List Int) (pivotTolerance : Rat)
    (valid : Partition.check basic nonBasic n m = .ok ()) (nonneg : 0 ≤ pivotTolerance)
    (isBasis : (build p basic nonBasic 0 pivotTolerance).isBasic = true) :
    (∃ x, Certifies (build p basic nonBasic 0 pivotTolerance) p x) ∧
      ∀ (basic' nonBasic' : List Int) (pivotTolerance' : Rat), Partition.check basic' nonBasic' n m = .ok () →
        0 ≤ pivotTolerance' → (build p basic nonBasic 0 pivotTolerance).isOptimal = true →
          ((build p basic' nonBasic' 0 pivotTolerance').isOptimal = true →
            (build p basic' nonBasic' 0 pivotTolerance').zeta? = (build p basic nonBasic 0 pivotTolerance).zeta?) ∧
          (build p basic' nonBasic' 0 pivotTolerance').isUnbounded = false := by
  obtain ⟨x, certified⟩ := exists_certifies valid nonneg isBasis
  refine ⟨⟨x, certified⟩, fun basic' nonBasic' pivotTolerance' valid' nonneg' optimal => ⟨fun optimal' => ?_, ?_⟩⟩
  · obtain ⟨y, certified'⟩ := exists_certifies valid' nonneg' (isBasic_of_isFeasible (isFeasible_of_isOptimal optimal'))
    obtain ⟨memX, greatestX⟩ := certified.optimal optimal
    obtain ⟨memY, greatestY⟩ := certified'.optimal optimal'
    rw [certified.zeta, certified'.zeta, le_antisymm (greatestX y memY) (greatestY x memX)]
  · rw [← Bool.not_eq_true]
    intro unbounded
    obtain ⟨y, certified'⟩ := exists_certifies valid' nonneg' (isBasic_of_isFeasible (isFeasible_of_isUnbounded unbounded))
    obtain ⟨_, _, _, passes⟩ := certified'.unbounded unbounded
    obtain ⟨z, memZ, far, _⟩ := passes (p.value x)
    exact absurd ((certified.optimal optimal).2 z memZ) (not_le.2 far)

theorem classification_of_wedge_is_certificate :
    Partition.check [1, 0] [3, 2] (2 : Nat) (2 : Nat) = .ok () ∧ (0 : Rat) ≤ 0 ∧
      (build .wedge [1, 0] [3, 2] 0 0).isBasic = true ∧
      (∃ x, Certifies (build .wedge [1, 0] [3, 2] 0 0) Program.wedge x) ∧
      ∀ basic nonBasic : List Int, Partition.check basic nonBasic (2 : Nat) (2 : Nat) = .ok () →
        (build .wedge basic nonBasic 0 0).isUnbounded = false := by
  have valid : Partition.check [1, 0] [3, 2] (2 : Nat) (2 : Nat) = .ok () := by decide
  have isBasis : (build .wedge [1, 0] [3, 2] 0 0).isBasic = true := by decide +kernel
  obtain ⟨certified, others⟩ := classification_is_certificate .wedge [1, 0] [3, 2] 0 valid le_rfl isBasis
  refine ⟨valid, le_rfl, isBasis, certified, fun basic nonBasic valid' => ?_⟩
  exact (others basic nonBasic 0 valid' le_rfl (by decide +kernel)).2

end Dictionary

end Polyhedra
