import Mathlib
import Polyhedra.Proofs.DenseMatrix.Fitting
import Polyhedra.Proofs.Elimination.Determinant

/-!
# Factors and solutions agree

Triangular factors divide by the pivot when multiples are recorded, solutions when the pivot is made one. Both hold
different rows above a pivot, yet beneath it and to its right the same numbers: every test of a pivot comes out alike,
the same rows are exchanged, and both runs stop at the same column or at none.
-/

namespace Polyhedra

open Matrix

/-! ### Two sweeps side by side -/

/-- Two runs end in states that are related, or stop with the same error. -/
inductive Alike {ε σ τ : Type} (related : σ → τ → Prop) : Except ε σ → Except ε τ → Prop where
  | ok {s : σ} {t : τ} (h : related s t) : Alike related (.ok s) (.ok t)
  | error (e : ε) : Alike related (.error e) (.error e)

namespace Alike

variable {ε σ τ : Type} {related : σ → τ → Prop} {left : Except ε σ} {right : Except ε τ}

theorem exists_ok {s : σ} (h : Alike related (.ok s) right) : ∃ t, right = .ok t ∧ related s t := by
  cases h with
  | ok h => exact ⟨_, rfl, h⟩

theorem exists_left_ok {t : τ} (h : Alike related left (.ok t)) : ∃ s, left = .ok s ∧ related s t := by
  cases h with
  | ok h => exact ⟨_, rfl, h⟩

theorem eq_error_iff (h : Alike related left right) (e : ε) : left = .error e ↔ right = .error e := by
  cases h <;> simp

theorem eq_error {e : ε} (h : Alike related (.error e) right) : right = .error e :=
  (h.eq_error_iff e).1 rfl

end Alike

/-- Sweeps whose steps keep a relation end alike. -/
theorem sweep_alike {ε σ τ : Type} {n : Nat} (left : σ → Fin n → Except ε σ) (right : τ → Fin n → Except ε τ)
    (motive : Nat → σ → τ → Prop) {s : σ} {t : τ} (start : motive 0 s t)
    (next : ∀ (p : Fin n) (s : σ) (t : τ), motive p s t → Alike (motive (p + 1)) (left s p) (right t p)) :
    Alike (motive n) ((List.finRange n).foldlM left s) ((List.finRange n).foldlM right t) := by
  induction n generalizing s t motive with
  | zero => exact .ok start
  | succ n ih =>
    rw [List.finRange_succ, List.foldlM_cons, List.foldlM_cons]
    have first := next 0 s t start
    generalize left s 0 = s', right t 0 = t' at first ⊢
    cases first with
    | error e => exact .error e
    | ok h =>
      have rest := ih (fun s p => left s p.succ) (fun t p => right t p.succ) (fun k => motive (k + 1)) h
        fun p => next p.succ
      rw [← List.foldlM_map (f := Fin.succ) (g := left), ← List.foldlM_map (f := Fin.succ) (g := right)] at rest
      exact rest

/-! ### The block beneath and to the right of the pivots -/

variable {n k : Nat} {tolerance : Rat}

namespace Grid

variable {g h : Grid Rat n n}

def AgreeFrom (g h : Grid Rat n n) (start : Nat) : Prop :=
  ∀ i j : Fin n, start ≤ (i : Nat) → start ≤ (j : Nat) → g.entry i j = h.entry i j

theorem AgreeFrom.findPivot {p : Fin n} (same : g.AgreeFrom h p) :
    g.findPivot tolerance p (p + 1) = h.findPivot tolerance p (p + 1) := by
  rw [Grid.findPivot, Grid.findPivot]
  congr 1
  funext i
  by_cases hi : (p : Nat) + 1 ≤ i
  · rw [same i p (by omega) le_rfl]
  · rw [decide_eq_false hi, Bool.false_and, Bool.false_and]

theorem AgreeFrom.swapRows {p i : Fin n} (same : g.AgreeFrom h p) (hi : p < i) :
    (g.swapRows p i).AgreeFrom (h.swapRows p i) p := by
  intro a b ha hb
  rw [entry_swapRows, entry_swapRows, ← Equiv.swap_apply_def]
  exact same _ b (Factors.le_swap hi ha) hb

end Grid

theorem System.entry_normalize {r c : Nat} (s : System Rat r c k) (row i : Fin r) (col j : Fin c) :
    (s.normalize row col).left.entry i j =
      if i = row ∧ col ≤ j then s.left.entry i j / s.left.entry row col else s.left.entry i j := by
  rw [normalize]
  split
  · rename_i one
    rw [(Scalar.eq_iff _ _).1 one, div_one, ite_self]
  · exact Grid.entry_divideRow _ _ _ _ _ _

/-- Dividing before or after the multiples are formed leaves the same block. -/
theorem Factors.agreeFrom_clear {f : Factors Rat n n} {s : System Rat n n k} {p : Fin n}
    (same : f.upper.AgreeFrom s.left p) (nonzero : s.left.entry p p ≠ 0) :
    (f.clear p p).upper.AgreeFrom ((s.normalize p p).clearBelow p p).left (p + 1) := by
  intro i j hi hj
  have below : p < i ∧ (p : Nat) ≤ j := ⟨by omega, by omega⟩
  rw [clear, System.clearBelow, Grid.entry_clearBelow, Grid.entry_clearBelow, if_pos below, if_pos below,
    System.entry_normalize, System.entry_normalize, System.entry_normalize, System.entry_normalize,
    if_neg fun h => below.1.ne' h.1, if_neg fun h => below.1.ne' h.1, if_pos ⟨rfl, le_rfl⟩, if_pos ⟨rfl, below.2⟩,
    div_self nonzero, div_one, same i j (by omega) (by omega), same i p (by omega) le_rfl, same p p le_rfl le_rfl,
    same p j le_rfl (by omega), div_mul_eq_mul_div, mul_div_assoc]

/-! ### The two runs -/

theorem Factors.step_square (f : Factors Rat n n) (tolerance : Rat) (p : Fin n) :
    f.step tolerance (p.cast (Nat.min_self n).symm) =
      if |f.upper.entry p p| ≤ tolerance then
        match f.upper.findPivot tolerance p (p + 1) with
        | some i => .ok ((f.exchange p i).clear p p)
        | none => .error p
      else .ok (f.clear p p) :=
  step_eq f tolerance _

theorem Factors.step_alike (nonneg : 0 ≤ tolerance) {f : Factors Rat n n} {s : System Rat n n k} {p : Fin n}
    (same : f.upper.AgreeFrom s.left p) : Alike (fun f s => f.upper.AgreeFrom s.left (p + 1))
      (f.step tolerance (p.cast (Nat.min_self n).symm)) (s.reduceStep tolerance p) := by
  rw [step_square, System.reduceStep, System.pivot, same.findPivot, same p p le_rfl le_rfl]
  simp only [Scalar.isNegligible_iff]
  by_cases negligible : |s.left.entry p p| ≤ tolerance
  · rw [if_pos negligible, if_pos negligible]
    cases found : s.left.findPivot tolerance p (p + 1) with
    | none => exact .error _
    | some i =>
      obtain ⟨below, large⟩ := Grid.of_findPivot_eq_some found
      refine .ok (agreeFrom_clear (same.swapRows below) ?_)
      rw [System.swapRows, Grid.entry_swapRows, if_pos rfl]
      exact abs_pos.1 (nonneg.trans_lt large)
  · rw [if_neg negligible, if_neg negligible]
    exact .ok (agreeFrom_clear same (abs_pos.1 (nonneg.trans_lt (not_le.1 negligible))))

namespace Grid

theorem factor_square (g : Grid Rat n n) (tolerance : Rat) : g.factor tolerance =
    (List.finRange n).foldlM (fun f p => f.step tolerance (p.cast (Nat.min_self n).symm)) (Factors.start g) := by
  have cast (m : Nat) (same : n = m) (step : Factors Rat n n → Fin m → Except Nat (Factors Rat n n)) :
      (List.finRange m).foldlM step (Factors.start g) =
        (List.finRange n).foldlM (fun f p => step f (p.cast same)) (Factors.start g) := by
    subst same
    rfl
  exact cast _ (Nat.min_self n).symm _

/-- A square grid has factors exactly if it has solutions, and both name the same column if not. -/
theorem factor_alike_solve (nonneg : 0 ≤ tolerance) (g : Grid Rat n n) (rightSide : Grid Rat n k) :
    Alike (fun _ _ => True) (g.factor tolerance) (g.solve tolerance rightSide) := by
  have start : (Factors.start g).upper.AgreeFrom (System.mk g rightSide).left 0 := fun _ _ _ _ => rfl
  have runs := sweep_alike (fun (f : Factors Rat n n) p => f.step tolerance (p.cast (Nat.min_self n).symm))
    (System.reduceStep tolerance) (fun p f s => f.upper.AgreeFrom s.left p) start
    fun p f s same => Factors.step_alike nonneg same
  rw [← factor_square] at runs
  rw [solve, System.reduce]
  generalize g.factor tolerance = f, (List.finRange n).foldlM (System.reduceStep tolerance) ⟨g, rightSide⟩ = s at runs ⊢
  cases runs with
  | ok => exact .ok trivial
  | error e => exact .error e

theorem exists_solve (nonneg : 0 ≤ tolerance) {g : Grid Rat n n} {f : Factors Rat n n}
    (run : g.factor tolerance = .ok f) (rightSide : Grid Rat n k) : ∃ x, g.solve tolerance rightSide = .ok x := by
  obtain ⟨x, solved, _⟩ := (run ▸ factor_alike_solve nonneg g rightSide).exists_ok
  exact ⟨x, solved⟩

theorem solve_eq_error (nonneg : 0 ≤ tolerance) {g : Grid Rat n n} {e : Nat} (run : g.factor tolerance = .error e)
    (rightSide : Grid Rat n k) : g.solve tolerance rightSide = .error e :=
  (run ▸ factor_alike_solve nonneg g rightSide).eq_error

/-- An inverse found is two-sided and gives every solution. -/
theorem inverse_spec (nonneg : 0 ≤ tolerance) {g inv : Grid Rat n n} (run : g.inverse tolerance = .ok inv) :
    g.mul inv = identity ∧ inv.mul g = identity ∧
      ∀ {k : Nat} (rightSide : Grid Rat n k), g.solve tolerance rightSide = .ok (inv.mul rightSide) := by
  have left := inverse_ok nonneg run
  have right := mul_eq_one_comm.1 left
  refine ⟨?_, ?_, ?_⟩
  · apply toMatrix_injective
    rw [toMatrix_mul, toMatrix_identity, right]
  · apply toMatrix_injective
    rw [toMatrix_mul, toMatrix_identity, left]
  · intro k rightSide
    cases factored : g.factor tolerance with
    | error e =>
      rw [inverse, solve_eq_error nonneg factored] at run
      cases run
    | ok f =>
      obtain ⟨solution, solved⟩ := exists_solve nonneg factored rightSide
      obtain ⟨E, inverts, same⟩ := solve_ok nonneg solved
      rw [solved]
      congr 1
      apply toMatrix_injective
      rw [toMatrix_mul, same, left_inv_eq_right_inv inverts right]

end Grid

namespace DenseMatrix

theorem multiply?_square (g : Grid Rat n n) (h : Grid Rat n k) :
    multiply? ⟨n, n, g⟩ ⟨n, k, h⟩ = .ok ⟨n, k, g.mul h⟩ :=
  multiply?_mk g h

theorem regular_of_factor (nonneg : 0 ≤ tolerance) {g : Grid Rat n n} {f : Factors Rat n n}
    (run : g.factor tolerance = .ok f) :
    (∀ b : DenseMatrix Rat, b.rows = n → ∃ x, solve? tolerance ⟨n, n, g⟩ b = .ok x) ∧
      (∃ inv, inverse? tolerance ⟨n, n, g⟩ = .ok inv) ∧ canSolve tolerance ⟨n, n, g⟩ = true ∧
      ∃ d, determinant? tolerance ⟨n, n, g⟩ = .ok d ∧ d ≠ 0 := by
  have solved (b : DenseMatrix Rat) (rows : b.rows = n) : ∃ x, solve? tolerance ⟨n, n, g⟩ b = .ok x := by
    obtain ⟨m, k, b⟩ := b
    obtain rfl : m = n := rows
    obtain ⟨x, solved⟩ := Grid.exists_solve nonneg run b
    exact ⟨⟨m, k, x⟩, by rw [solve?_square, solved, ofReduction]⟩
  obtain ⟨inv, inverted⟩ := Grid.exists_solve nonneg run Grid.identity
  obtain ⟨zero, solvable⟩ := solved ⟨n, 1, .constant 0⟩ rfl
  refine ⟨solved, ⟨⟨n, n, inv⟩, ?_⟩, ?_, _, determinant?_square g tolerance, Grid.determinant_ne_zero nonneg run⟩
  · rw [inverse?_square, Grid.inverse, inverted]
  · rw [canSolve, solvable]

theorem singular_of_factor (nonneg : 0 ≤ tolerance) {g : Grid Rat n n} {e : Nat} (run : g.factor tolerance = .error e) :
    (∀ b : DenseMatrix Rat, b.rows = n → solve? tolerance ⟨n, n, g⟩ b = .error (.noPivot .solving e)) ∧
      inverse? tolerance ⟨n, n, g⟩ = .error .singular ∧ canSolve tolerance ⟨n, n, g⟩ = false ∧
      determinant? tolerance ⟨n, n, g⟩ = .ok 0 := by
  have stuck (b : DenseMatrix Rat) (rows : b.rows = n) :
      solve? tolerance ⟨n, n, g⟩ b = .error (.noPivot .solving e) := by
    obtain ⟨m, k, b⟩ := b
    obtain rfl : m = n := rows
    rw [solve?_square, Grid.solve_eq_error nonneg run, ofReduction]
  refine ⟨stuck, ?_, ?_, ?_⟩
  · rw [inverse?_square, Grid.inverse, Grid.solve_eq_error nonneg run]
  · rw [canSolve, stuck ⟨n, 1, .constant 0⟩ rfl]
  · rw [determinant?_square, Grid.determinant, run]

/-- Factors, solutions, inverse and determinant of a square matrix agree on what is singular, whatever counts as zero.
The inverse is two-sided and gives the solutions; what is missing is told with the same column. -/
theorem elimination_agrees (a : DenseMatrix Rat) (square : a.rows = a.cols) (tolerance : Rat) (nonneg : 0 ≤ tolerance) :
    List.TFAE [∃ f, a.factor? tolerance = .ok f,
      ∀ b : DenseMatrix Rat, b.rows = a.rows → ∃ x, a.solve? tolerance b = .ok x,
      ∃ inv, a.inverse? tolerance = .ok inv,
      a.canSolve tolerance = true,
      ∃ d, a.determinant? tolerance = .ok d ∧ d ≠ 0] ∧
    (∀ inv, a.inverse? tolerance = .ok inv →
      a.multiply? inv = .ok (identity a.rows) ∧ inv.multiply? a = .ok (identity a.rows) ∧
      ∀ b : DenseMatrix Rat, b.rows = a.rows → a.solve? tolerance b = inv.multiply? b) ∧
    ∀ fault, a.factor? tolerance = .error fault → ∃ column, fault = .noPivot .decomposition column ∧
      (∀ b : DenseMatrix Rat, b.rows = a.rows → a.solve? tolerance b = .error (.noPivot .solving column)) ∧
      a.inverse? tolerance = .error .singular ∧ a.determinant? tolerance = .ok 0 := by
  obtain ⟨n, m, g⟩ := a
  obtain rfl : n = m := square
  refine ⟨?_, ?_, ?_⟩
  · cases run : g.factor tolerance with
    | ok f =>
      obtain ⟨solved, inverted, solvable, nonzero⟩ := regular_of_factor nonneg run
      apply List.tfae_of_forall True
      simp only [List.forall_mem_cons, iff_true]
      exact ⟨⟨f, by rw [factor?, run]⟩, solved, inverted, solvable, nonzero, List.forall_mem_nil _⟩
    | error e =>
      obtain ⟨stuck, singular, unsolvable, zero⟩ := singular_of_factor nonneg run
      apply List.tfae_of_forall False
      simp only [List.forall_mem_cons, iff_false]
      refine ⟨?_, ?_, ?_, ?_, ?_, List.forall_mem_nil _⟩
      · simp [factor?, run]
      · intro solves
        obtain ⟨x, solved⟩ := solves ⟨n, n, g⟩ rfl
        simp [stuck] at solved
      · simp [singular]
      · simp [unsolvable]
      · simp [zero]
  · intro inv inverted
    rw [inverse?_square] at inverted
    cases run : g.inverse tolerance with
    | error e =>
      rw [run] at inverted
      cases inverted
    | ok inv =>
      rw [run] at inverted
      obtain rfl := Except.ok.inj inverted
      obtain ⟨right, left, solves⟩ := Grid.inverse_spec nonneg run
      refine ⟨by rw [multiply?_square, right, identity], by rw [multiply?_square, left, identity], ?_⟩
      intro b rows
      obtain ⟨m, k, b⟩ := b
      obtain rfl : m = n := rows
      rw [solve?_square, solves, multiply?_square, ofReduction]
  · intro fault failed
    obtain ⟨column, stuck, rfl⟩ := factor?_eq_error failed
    obtain ⟨solving, singular, _, zero⟩ := singular_of_factor nonneg stuck
    exact ⟨column, rfl, solving, singular, zero⟩

theorem elimination_of_exchanged_agrees : (2 : Nat) = 2 ∧ (0 : Rat) ≤ 1 / 2 ∧
    ∃ inv, inverse? (1 / 2 : Rat) ⟨2, 2, .ofLists 0 [[1 / 2, 3], [1, 3]]⟩ = .ok inv ∧
      inv.toLists = [[-2, 2], [2 / 3, -1 / 3]] ∧
      multiply? ⟨2, 2, .ofLists 0 [[1 / 2, 3], [1, 3]]⟩ inv = .ok (identity 2) := by
  have nonneg : (0 : Rat) ≤ 1 / 2 := by decide +kernel
  obtain ⟨together, inverses, _⟩ := elimination_agrees ⟨2, 2, .ofLists 0 [[1 / 2, 3], [1, 3]]⟩ rfl (1 / 2) nonneg
  obtain ⟨inv, run⟩ := (together.out 3 2).1 (by decide +kernel)
  have entries : (inverse? (1 / 2 : Rat) ⟨2, 2, .ofLists 0 [[1 / 2, 3], [1, 3]]⟩).toOption.map toLists =
      some [[-2, 2], [2 / 3, -1 / 3]] := by decide +kernel
  rw [run] at entries
  exact ⟨rfl, nonneg, inv, run, Option.some.inj entries, (inverses inv run).1⟩

end DenseMatrix

end Polyhedra
