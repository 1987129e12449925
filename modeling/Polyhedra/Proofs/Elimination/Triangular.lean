import Mathlib
import Polyhedra.Proofs.Elimination.Agreement

/-!
# Triangular form without exchanges

Triangular form is the upper factor of a run in which no row had to be exchanged: as long as no pivot is negligible both
runs take the same steps, over any scalars, and a run that exchanges rows keeps count of it. In exact arithmetic, making
the pivots one changes only the rows that are done with, so the same pivots are met. What has been cleared is a unit
lower factor away from the grid, hence the products of the pivots are its leading minors.
-/

namespace Polyhedra

open Matrix

/-! ### Runs without exchanges -/

namespace Factors

variable {α : Type} [Scalar α] {r c : Nat} {tolerance : α} {f t : Factors α r c} {p : Fin (min r c)}

theorem triangulateStep_upper (tolerance : α) (f : Factors α r c) (p : Fin (min r c)) :
    Grid.triangulateStep false tolerance f.upper p =
      if Scalar.isNegligible tolerance (f.upper.entry (Grid.diagonal p).1 (Grid.diagonal p).2) then .error p
      else .ok (f.clear (Grid.diagonal p).1 (Grid.diagonal p).2).upper :=
  rfl

theorem triangulateStep_unit (tolerance : α) (s : System α r c 0) (p : Fin (min r c)) :
    Grid.triangulateStep true tolerance s.left p =
      if Scalar.isNegligible tolerance (s.left.entry (Grid.diagonal p).1 (Grid.diagonal p).2) then .error p
      else .ok ((s.normalize (Grid.diagonal p).1 (Grid.diagonal p).2).clearBelow (Grid.diagonal p).1
        (Grid.diagonal p).2).left := by
  have right : s.right = .build fun _ j => j.elim0 := Grid.ext fun _ j => j.elim0
  obtain ⟨left, _⟩ := s
  subst right
  rfl

theorem step_of_sizeable
    (large : ¬Scalar.isNegligible tolerance (f.upper.entry (Grid.diagonal p).1 (Grid.diagonal p).2) = true) :
    f.step tolerance p = .ok (f.clear (Grid.diagonal p).1 (Grid.diagonal p).2) := by
  rw [step]
  simp only [if_neg large]

/-- A negligible pivot is either replaced, which is counted, or the end of the run. -/
theorem swaps_lt_of_negligible
    (negligible : Scalar.isNegligible tolerance (f.upper.entry (Grid.diagonal p).1 (Grid.diagonal p).2) = true)
    (run : f.step tolerance p = .ok t) : f.swaps < t.swaps := by
  rw [step] at run
  simp only [if_pos negligible] at run
  cases found : f.upper.findPivot tolerance (Grid.diagonal p).2 (p + 1) with
  | none =>
    rw [found] at run
    simp only [if_pos negligible] at run
    cases run
  | some i =>
    rw [found] at run
    dsimp only at run
    split at run
    · cases run
    · cases run
      exact Nat.lt_succ_self f.swaps

theorem swaps_le_of_step (run : f.step tolerance p = .ok t) : f.swaps ≤ t.swaps := by
  by_cases negligible : Scalar.isNegligible tolerance (f.upper.entry (Grid.diagonal p).1 (Grid.diagonal p).2) = true
  · exact (swaps_lt_of_negligible negligible run).le
  · rw [step_of_sizeable negligible] at run
    cases run
    exact le_rfl

theorem swaps_le_of_steps {places : List (Fin (min r c))} (run : places.foldlM (step tolerance) f = .ok t) :
    f.swaps ≤ t.swaps := by
  induction places generalizing f with
  | nil =>
    cases run
    exact le_rfl
  | cons p places ih =>
    rw [List.foldlM_cons] at run
    cases first : f.step tolerance p with
    | error e =>
      rw [first] at run
      cases run
    | ok u =>
      rw [first] at run
      exact (swaps_le_of_step first).trans (ih run)

/-- Triangular form is reached exactly if factors are without a further exchange, and it is their upper one. -/
theorem triangulateSteps_eq_ok_iff (f : Factors α r c) (places : List (Fin (min r c))) (u : Grid α r c) :
    places.foldlM (Grid.triangulateStep false tolerance) f.upper = .ok u ↔
      ∃ t, places.foldlM (step tolerance) f = .ok t ∧ t.swaps = f.swaps ∧ t.upper = u := by
  induction places generalizing f with
  | nil =>
    constructor
    · intro run
      exact ⟨f, rfl, rfl, Except.ok.inj run⟩
    · rintro ⟨t, run, _, rfl⟩
      cases run
      rfl
  | cons p places ih =>
    rw [List.foldlM_cons, List.foldlM_cons, triangulateStep_upper]
    by_cases negligible : Scalar.isNegligible tolerance (f.upper.entry (Grid.diagonal p).1 (Grid.diagonal p).2) = true
    · -- Factors go on here, if at all, with an exchange that stays counted.
      rw [if_pos negligible]
      refine iff_of_false nofun ?_
      rintro ⟨t, run, same, _⟩
      cases first : f.step tolerance p with
      | error e =>
        rw [first] at run
        cases run
      | ok v =>
        rw [first] at run
        have more := (swaps_lt_of_negligible negligible first).trans_le (swaps_le_of_steps run)
        omega
    · rw [if_neg negligible, step_of_sizeable negligible]
      exact ih (f.clear (Grid.diagonal p).1 (Grid.diagonal p).2)

end Factors

theorem Grid.upperTriangular_eq_ok_iff {α : Type} [Scalar α] {r c : Nat} (g : Grid α r c) (tolerance : α)
    (u : Grid α r c) : g.upperTriangular tolerance = .ok u ↔
      ∃ f, g.factor tolerance = .ok f ∧ f.swaps = 0 ∧ f.upper = u :=
  Factors.triangulateSteps_eq_ok_iff (Factors.start g) _ u

/-! ### Exact arithmetic -/

variable {r c k : Nat} {tolerance : Rat}

namespace Grid

variable {g u v : Grid Rat r c} {p : Fin (min r c)}

/-- Some columns of a grid are cleared, and no row was exchanged. -/
def ClearsTo (g : Grid Rat r c) (tolerance : Rat) (done : Nat) (u : Grid Rat r c) : Prop :=
  ∃ f : Factors Rat r c, f.Resolves g tolerance done ∧ f.swaps = 0 ∧ f.upper = u

theorem clearsTo_step (nonneg : 0 ≤ tolerance) (cleared : g.ClearsTo tolerance p u)
    (run : triangulateStep false tolerance u p = .ok v) : g.ClearsTo tolerance (p + 1) v := by
  obtain ⟨f, resolved, unmoved, rfl⟩ := cleared
  have resolved : f.Resolves g tolerance (diagonal p).1 := resolved
  rw [Factors.triangulateStep_upper] at run
  split at run
  · cases run
  · rename_i large
    rw [Scalar.isNegligible_iff, not_le] at large
    obtain rfl := Except.ok.inj run
    exact ⟨_, Factors.resolves_clear resolved nonneg rfl large, unmoved, rfl⟩

/-- Triangular form, or that of the first columns when the next pivot is negligible. -/
theorem upperTriangular_spec (nonneg : 0 ≤ tolerance) (g : Grid Rat r c) :
    match g.upperTriangular tolerance with
    | .ok u => g.ClearsTo tolerance (min r c) u
    | .error e => ∃ (p : Fin (min r c)) (u : Grid Rat r c), g.ClearsTo tolerance p u ∧ e = p ∧
        |u.entry (diagonal p).1 (diagonal p).2| ≤ tolerance := by
  have sweep := sweep_induction (triangulateStep false tolerance) g (fun p u => g.ClearsTo tolerance p u)
    ⟨Factors.start g, Factors.resolves_start g tolerance, rfl, rfl⟩ fun p u v => clearsTo_step nonneg
  rw [upperTriangular, triangulate]
  cases run : (List.finRange (min r c)).foldlM (triangulateStep false tolerance) g with
  | ok u =>
    rw [run] at sweep
    exact sweep
  | error e =>
    rw [run] at sweep
    obtain ⟨p, u, cleared, fails⟩ := sweep
    refine ⟨p, u, cleared, ?_⟩
    obtain ⟨f, _, _, rfl⟩ := cleared
    rw [Factors.triangulateStep_upper] at fails
    split at fails
    · rename_i small
      exact ⟨(Except.error.inj fails).symm, (Scalar.isNegligible_iff _ _).1 small⟩
    · cases fails

/-! ### Pivots made one -/

structure IsScaled (v u : Grid Rat r c) (done : Nat) : Prop where
  above : ∀ (i : Fin r) (j d : Fin c), (d : Nat) = i → (i : Nat) < done → v.entry i j = u.entry i j / u.entry i d
  rest : ∀ (i : Fin r) (j : Fin c), done ≤ (i : Nat) → v.entry i j = u.entry i j

/-- A row that is made one at its pivot leaves what the row as it was leaves beneath it: the multiples are larger by the
pivot, and the row is smaller by it. -/
theorem IsScaled.clear {f : Factors Rat r c} {s : System Rat r c k} {row : Fin r} {col : Fin c}
    (scaled : s.left.IsScaled f.upper row) (same : (row : Nat) = col)
    (zero : ∀ j : Fin c, j < col → f.upper.entry row j = 0) (nonzero : f.upper.entry row col ≠ 0) :
    ((s.normalize row col).clearBelow row col).left.IsScaled (f.clear row col).upper (row + 1) := by
  have plain (i : Fin r) (j : Fin c) : (f.clear row col).upper.entry i j =
      if row < i ∧ col ≤ j then f.upper.entry i j - f.upper.entry i col / f.upper.entry row col * f.upper.entry row j
      else f.upper.entry i j := entry_clearBelow f.upper f.upper row col col i j
  have unit (i : Fin r) (j : Fin c) : ((s.normalize row col).clearBelow row col).left.entry i j =
      if row < i ∧ col ≤ j then (s.normalize row col).left.entry i j - (s.normalize row col).left.entry i col /
        (s.normalize row col).left.entry row col * (s.normalize row col).left.entry row j
      else (s.normalize row col).left.entry i j := entry_clearBelow _ _ row col col i j
  have pivotRow (j : Fin c) : (s.normalize row col).left.entry row j = f.upper.entry row j / f.upper.entry row col := by
    rw [System.entry_normalize, scaled.rest row j le_rfl, scaled.rest row col le_rfl]
    by_cases hj : col ≤ j
    · rw [if_pos ⟨rfl, hj⟩]
    · rw [if_neg fun h => hj h.2, zero j (not_le.1 hj), zero_div]
  have other {i : Fin r} (hi : i ≠ row) (j : Fin c) : (s.normalize row col).left.entry i j = s.left.entry i j := by
    rw [System.entry_normalize, if_neg fun h => hi h.1]
  refine ⟨?_, ?_⟩
  · intro i j d hd hi
    rw [unit, plain, plain, if_neg (by omega), if_neg (by omega), if_neg (by omega)]
    rcases Nat.lt_succ_iff_lt_or_eq.1 hi with hi | hi
    · rw [other (by omega)]
      exact scaled.above i j d hd hi
    · obtain rfl : i = row := Fin.ext hi
      obtain rfl : d = col := Fin.ext (hd.trans same)
      exact pivotRow j
  · intro i j hi
    have below : row < i := by omega
    rw [unit, plain, pivotRow, pivotRow, div_self nonzero, div_one, other below.ne', other below.ne',
      scaled.rest i j below.le, scaled.rest i col below.le]
    by_cases hj : col ≤ j
    · rw [if_pos ⟨below, hj⟩, if_pos ⟨below, hj⟩, div_mul_eq_mul_div, mul_div_assoc]
    · rw [if_neg fun h => hj h.2, if_neg fun h => hj h.2]

theorem triangulateStep_alike (nonneg : 0 ≤ tolerance) {s : System Rat r c 0} (cleared : g.ClearsTo tolerance p u)
    (scaled : s.left.IsScaled u p) :
    Alike (fun v u => g.ClearsTo tolerance (p + 1) u ∧ v.IsScaled u (p + 1))
      (triangulateStep true tolerance s.left p) (triangulateStep false tolerance u p) := by
  obtain ⟨f, resolved, unmoved, rfl⟩ := cleared
  have resolved : f.Resolves g tolerance (diagonal p).1 := resolved
  rw [Factors.triangulateStep_unit, Factors.triangulateStep_upper, scaled.rest _ _ le_rfl]
  split
  · exact .error _
  · rename_i large
    rw [Scalar.isNegligible_iff, not_le] at large
    refine .ok ⟨⟨_, Factors.resolves_clear resolved nonneg rfl large, unmoved, rfl⟩, ?_⟩
    exact IsScaled.clear scaled rfl (fun j hj => resolved.upper _ j hj hj) (abs_pos.1 (nonneg.trans_lt large))

theorem triangular_alike (nonneg : 0 ≤ tolerance) (g : Grid Rat r c) :
    Alike (fun v u => g.ClearsTo tolerance (min r c) u ∧ v.IsScaled u (min r c))
      (g.unitUpperTriangular tolerance) (g.upperTriangular tolerance) := by
  have scaled : g.IsScaled g 0 := ⟨fun i j d _ hi => absurd hi (Nat.not_lt_zero _), fun _ _ _ => rfl⟩
  exact sweep_alike (triangulateStep true tolerance) (triangulateStep false tolerance)
    (fun p v u => g.ClearsTo tolerance p u ∧ v.IsScaled u p)
    ⟨⟨Factors.start g, Factors.resolves_start g tolerance, rfl, rfl⟩, scaled⟩
    fun p v u h => triangulateStep_alike (s := ⟨v, .build fun _ j => j.elim0⟩) nonneg h.1 h.2

theorem unitUpperTriangular_eq_error_iff (nonneg : 0 ≤ tolerance) (g : Grid Rat r c) (e : Nat) :
    g.unitUpperTriangular tolerance = .error e ↔ g.upperTriangular tolerance = .error e :=
  (triangular_alike nonneg g).eq_error_iff e

theorem exists_unitUpperTriangular (nonneg : 0 ≤ tolerance) (run : g.upperTriangular tolerance = .ok u) :
    ∃ v, g.unitUpperTriangular tolerance = .ok v ∧ g.ClearsTo tolerance (min r c) u ∧ v.IsScaled u (min r c) :=
  (run ▸ triangular_alike nonneg g).exists_left_ok

/-- Once all pivots are made one, the form has ones on its diagonal and zeros beneath it. -/
theorem IsScaled.unit_upper (scaled : v.IsScaled u (min r c)) (nonneg : 0 ≤ tolerance)
    (cleared : g.ClearsTo tolerance (min r c) u) :
    (∀ (i : Fin r) (d : Fin c), (d : Nat) = i → v.entry i d = 1) ∧
      ∀ (i : Fin r) (j : Fin c), (j : Nat) < i → v.entry i j = 0 := by
  obtain ⟨f, resolved, _, rfl⟩ := cleared
  refine ⟨?_, ?_⟩
  · intro i d hd
    have large := resolved.pivots i d (by omega) hd.symm
    rw [scaled.above i d d hd (by omega), div_self (abs_pos.1 (nonneg.trans_lt large))]
  · intro i j hj
    have zero := resolved.upper i j (by omega) hj
    by_cases hi : (i : Nat) < c
    · rw [scaled.above i j ⟨i, hi⟩ rfl (by omega), zero, zero_div]
    · rw [scaled.rest i j (by omega), zero]

/-! ### Leading minors -/

def leadingMinor (g : Grid Rat r c) (inside : k ≤ min r c) : Rat :=
  (g.toMatrix.submatrix (Fin.castLE (inside.trans (Nat.min_le_left r c)))
    (Fin.castLE (inside.trans (Nat.min_le_right r c)))).det

/-- The first rows of a product with a lower triangular grid need the first rows only. -/
theorem leading_mul {lower : Grid Rat r r} (u : Grid Rat r c) {d : Nat} (rows : k ≤ r) (cols : d ≤ c)
    (triangular : ∀ i j : Fin r, i < j → lower.entry i j = 0) :
    (lower.toMatrix * u.toMatrix).submatrix (Fin.castLE rows) (Fin.castLE cols) =
      lower.toMatrix.submatrix (Fin.castLE rows) (Fin.castLE rows) *
        u.toMatrix.submatrix (Fin.castLE rows) (Fin.castLE cols) := by
  ext i j
  rw [submatrix_apply, mul_apply, mul_apply]
  symm
  apply Fintype.sum_of_injective (Fin.castLE rows) (Fin.castLE_injective rows)
  · intro m outside
    have beyond : k ≤ (m : Nat) := by
      by_contra before
      exact outside ⟨⟨m, not_le.1 before⟩, rfl⟩
    rw [toMatrix_apply, triangular (Fin.castLE rows i) m (i.isLt.trans_le beyond), zero_mul]
  · exact fun m => rfl

/-- As far as the columns are cleared, and for one column more, a leading minor is the product of the pivots. -/
theorem ClearsTo.leadingMinor_eq {done : Nat} (cleared : g.ClearsTo tolerance done u) (inside : k ≤ min r c)
    (reached : k ≤ done + 1) :
    g.leadingMinor inside = ∏ p : Fin k, u.entry (diagonal (p.castLE inside)).1 (diagonal (p.castLE inside)).2 := by
  obtain ⟨f, resolved, unmoved, rfl⟩ := cleared
  have product := resolved.product
  obtain ⟨σ, order, _, fixed⟩ := resolved.order
  rw [Factors.toMatrix_permutation order, fixed unmoved, permMatrix_one, Matrix.one_mul] at product
  have rows : k ≤ r := inside.trans (Nat.min_le_left r c)
  have lower : (f.lower.toMatrix.submatrix (Fin.castLE rows) (Fin.castLE rows)).det = 1 := by
    rw [det_of_isLowerTriangular]
    · exact Finset.prod_eq_one fun i _ => (resolved.lower _ _ (.inl le_rfl)).trans (if_pos rfl)
    · intro i j hij
      have hij : Fin.castLE rows i < Fin.castLE rows j := hij
      exact (resolved.lower _ _ (.inl hij.le)).trans (if_neg hij.ne)
  rw [leadingMinor, product, leading_mul _ _ _ fun i j hij => (resolved.lower i j (.inl hij.le)).trans (if_neg hij.ne),
    det_mul, lower, one_mul, det_of_isUpperTriangular]
  · rfl
  · intro i j hij
    have hij : (j : Nat) < i := hij
    exact resolved.upper _ _ (show (j : Nat) < done by omega) hij

theorem leadingMinor_ne_zero (nonneg : 0 ≤ tolerance) (run : g.upperTriangular tolerance = .ok u)
    (inside : k ≤ min r c) : g.leadingMinor inside ≠ 0 := by
  have spec := upperTriangular_spec nonneg g
  rw [run] at spec
  have cleared : g.ClearsTo tolerance (min r c) u := spec
  rw [cleared.leadingMinor_eq inside (by omega), Finset.prod_ne_zero_iff]
  obtain ⟨f, resolved, _, rfl⟩ := cleared
  intro p _
  exact abs_pos.1 (nonneg.trans_lt (resolved.pivots _ _ (p.castLE inside).isLt rfl))

theorem leadingMinor_eq_zero {e : Nat} (run : g.upperTriangular 0 = .error e) :
    ∃ inside : e + 1 ≤ min r c, g.leadingMinor inside = 0 := by
  have spec := upperTriangular_spec le_rfl g
  rw [run] at spec
  obtain ⟨p, u, cleared, rfl, small⟩ := spec
  refine ⟨p.isLt, ?_⟩
  rw [cleared.leadingMinor_eq p.isLt le_rfl]
  exact Finset.prod_eq_zero (Finset.mem_univ (Fin.last p)) (abs_nonpos_iff.1 small)

theorem exists_upperTriangular_iff (g : Grid Rat r c) : (∃ u, g.upperTriangular 0 = .ok u) ↔
    ∀ (k : Nat) (inside : k ≤ min r c), 1 ≤ k → g.leadingMinor inside ≠ 0 := by
  constructor
  · rintro ⟨u, run⟩ k inside _
    exact leadingMinor_ne_zero le_rfl run inside
  · intro minors
    cases run : g.upperTriangular 0 with
    | ok u => exact ⟨u, rfl⟩
    | error e =>
      obtain ⟨inside, zero⟩ := leadingMinor_eq_zero run
      exact absurd zero (minors (e + 1) inside (Nat.succ_pos e))

end Grid

namespace DenseMatrix

theorem upperTriangular?_eq_ok_iff {α : Type} [Scalar α] {a t : DenseMatrix α} {tolerance : α} :
    a.upperTriangular? tolerance = .ok t ↔
      ∃ f, a.factor? tolerance = .ok f ∧ f.swaps = 0 ∧ t = ⟨a.rows, a.cols, f.upper⟩ := by
  rw [upperTriangular?, ofReduction_eq_ok_iff]
  simp only [Grid.upperTriangular_eq_ok_iff, factor?_eq_ok_iff]
  constructor
  · rintro ⟨_, ⟨f, run, unmoved, rfl⟩, rfl⟩
    exact ⟨f, run, unmoved, rfl⟩
  · rintro ⟨f, run, unmoved, rfl⟩
    exact ⟨f.upper, ⟨f, run, unmoved, rfl⟩, rfl⟩

theorem unitUpperTriangular?_eq_error_iff {a : DenseMatrix Rat} {tolerance : Rat} (nonneg : 0 ≤ tolerance)
    (fault : MatrixFault) :
    a.unitUpperTriangular? tolerance = .error fault ↔ a.upperTriangular? tolerance = .error fault := by
  rw [unitUpperTriangular?, upperTriangular?, ofReduction_eq_error_iff, ofReduction_eq_error_iff]
  simp only [Grid.unitUpperTriangular_eq_error_iff nonneg]

/-- Triangular form is the upper factor of a run without exchanges, in any arithmetic. In exact arithmetic, making the
pivots one divides every row by its pivot and meets no other fault; without a tolerance there is a form exactly if no
leading minor vanishes. -/
theorem triangular_forms_agree :
    (∀ {α : Type} [Scalar α] (a t : DenseMatrix α) (tolerance : α), a.upperTriangular? tolerance = .ok t ↔
      ∃ f, a.factor? tolerance = .ok f ∧ f.swaps = 0 ∧ t = ⟨a.rows, a.cols, f.upper⟩) ∧
    (∀ (a : DenseMatrix Rat) (tolerance : Rat), 0 ≤ tolerance →
      (∀ fault, a.unitUpperTriangular? tolerance = .error fault ↔ a.upperTriangular? tolerance = .error fault) ∧
      ∀ t, a.upperTriangular? tolerance = .ok t → ∃ u v : Grid Rat a.rows a.cols,
        t = ⟨a.rows, a.cols, u⟩ ∧ a.unitUpperTriangular? tolerance = .ok ⟨a.rows, a.cols, v⟩ ∧
        (∀ (i : Fin a.rows) (j d : Fin a.cols), (d : Nat) = i → v.entry i j = u.entry i j / u.entry i d) ∧
        (∀ (i : Fin a.rows) (d : Fin a.cols), (d : Nat) = i → v.entry i d = 1) ∧
        ∀ (i : Fin a.rows) (j : Fin a.cols), (j : Nat) < i → v.entry i j = 0) ∧
    ∀ a : DenseMatrix Rat, List.TFAE [∃ t, a.upperTriangular? 0 = .ok t, ∃ t, a.unitUpperTriangular? 0 = .ok t,
      ∀ (k : Nat) (inside : k ≤ min a.rows a.cols), 1 ≤ k → a.entries.leadingMinor inside ≠ 0] := by
  refine ⟨fun a t tolerance => upperTriangular?_eq_ok_iff, ?_, ?_⟩
  · intro a tolerance nonneg
    refine ⟨unitUpperTriangular?_eq_error_iff nonneg, ?_⟩
    intro t run
    obtain ⟨u, plain, rfl⟩ := ofReduction_eq_ok_iff.1 run
    obtain ⟨v, unit, cleared, scaled⟩ := Grid.exists_unitUpperTriangular nonneg plain
    obtain ⟨ones, zeros⟩ := scaled.unit_upper nonneg cleared
    refine ⟨u, v, rfl, ofReduction_eq_ok_iff.2 ⟨v, unit, rfl⟩, ?_, ones, zeros⟩
    exact fun i j d hd => scaled.above i j d hd (by omega)
  · intro a
    tfae_have 1 ↔ 3 := by
      rw [← Grid.exists_upperTriangular_iff]
      simp [upperTriangular?, ofReduction_eq_ok_iff]
    tfae_have 1 ↔ 2 := by
      have ok_iff (answer : Except MatrixFault (DenseMatrix Rat)) :
          (∃ t, answer = .ok t) ↔ ∀ fault, answer ≠ .error fault := by
        cases answer <;> simp
      rw [ok_iff, ok_iff]
      exact forall_congr' fun fault => not_congr (unitUpperTriangular?_eq_error_iff le_rfl fault).symm
    tfae_finish

/-- A wide matrix that needs no exchange, even with pivots up to one ruled out. -/
def wide : Grid Rat 2 3 :=
  .ofLists 0 [[2, 4, 6], [1, 5, 2]]

theorem triangular_forms_of_wide : (0 : Rat) ≤ 1 ∧
    upperTriangular? 1 ⟨2, 3, wide⟩ = .ok ⟨2, 3, .ofLists 0 [[2, 4, 6], [0, 3, -1]]⟩ ∧
    (∃ f, factor? 1 ⟨2, 3, wide⟩ = .ok f ∧ f.swaps = 0) ∧
    (∃ v : Grid Rat 2 3, unitUpperTriangular? 1 ⟨2, 3, wide⟩ = .ok ⟨2, 3, v⟩ ∧ v.entry 1 1 = 1 ∧
      v.entry 1 2 = -1 / 3) ∧
    wide.leadingMinor (k := 2) le_rfl ≠ 0 := by
  have nonneg : (0 : Rat) ≤ 1 := by decide +kernel
  have run (tolerance : Rat) (entries : wide.upperTriangular tolerance = .ok (.ofLists 0 [[2, 4, 6], [0, 3, -1]])) :
      upperTriangular? tolerance ⟨2, 3, wide⟩ = .ok ⟨2, 3, .ofLists 0 [[2, 4, 6], [0, 3, -1]]⟩ := by
    rw [upperTriangular?, entries, ofReduction]
  have run_one := run 1 (by decide +kernel)
  have run_zero := run 0 (by decide +kernel)
  obtain ⟨factors, units, minors⟩ := triangular_forms_agree
  obtain ⟨f, factored, unmoved, _⟩ := (factors _ _ _).1 run_one
  obtain ⟨u, v, same, unit, rows, ones, _⟩ := (units ⟨2, 3, wide⟩ 1 nonneg).2 _ run_one
  obtain rfl : Grid.ofLists 0 [[2, 4, 6], [0, 3, -1]] = u := by
    simpa using same
  refine ⟨nonneg, run_one, ⟨f, factored, unmoved⟩, ⟨v, unit, ones 1 1 rfl, ?_⟩, ?_⟩
  · exact (rows 1 2 1 rfl).trans (by decide +kernel)
  · have reached := (minors ⟨2, 3, wide⟩).out 0 2
    exact reached.1 ⟨_, run_zero⟩ 2 le_rfl one_le_two

end DenseMatrix

end Polyhedra
