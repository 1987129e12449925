import Mathlib
import Polyhedra.Proofs.DenseMatrix.Fitting

/-!
# Right-hand sides one column at a time

Which rows are exchanged, what a row is divided by and which multiples are taken is decided by the coefficients, and all
of it is done to every column of the right-hand sides alike. So taking some of the columns before a run or after it comes
to the same, over any scalars: no law of arithmetic is used.
-/

namespace Polyhedra

variable {α : Type} {r c k l n : Nat}

/-- A loop commutes with a map of states that commutes with its steps. -/
theorem foldlM_map_state {ε σ τ ι : Type} {f : σ → τ} {left : τ → ι → Except ε τ} {right : σ → ι → Except ε σ}
    (step : ∀ s p, left (f s) p = (right s p).map f) (places : List ι) (s : σ) :
    places.foldlM left (f s) = (places.foldlM right s).map f := by
  induction places generalizing s with
  | nil => rfl
  | cons p places ih =>
    rw [List.foldlM_cons, List.foldlM_cons, step]
    cases right s p with
    | error e => rfl
    | ok t => exact ih t

namespace Grid

def columnsAt (g : Grid α r k) (place : Fin l → Fin k) : Grid α r l :=
  .build fun i j => g.entry i (place j)

@[simp] theorem entry_columnsAt (g : Grid α r k) (place : Fin l → Fin k) (i : Fin r) (j : Fin l) :
    (g.columnsAt place).entry i j = g.entry i (place j) :=
  entry_build _ i j

theorem columnsAt_beside_left (g : Grid α r k) (h : Grid α r l) : (g.beside h).columnsAt (Fin.castAdd l) = g := by
  ext i j
  simp

theorem columnsAt_beside_right (g : Grid α r k) (h : Grid α r l) : (g.beside h).columnsAt (Fin.natAdd k) = h := by
  ext i j
  simp

theorem beside_columnsAt (g : Grid α r (k + l)) :
    (g.columnsAt (Fin.castAdd l)).beside (g.columnsAt (Fin.natAdd k)) = g := by
  ext i j
  refine Fin.addCases (fun j => ?_) (fun j => ?_) j <;> simp

theorem columnsAt_swapRows (g : Grid α r k) (place : Fin l → Fin k) (i j : Fin r) :
    (g.columnsAt place).swapRows i j = (g.swapRows i j).columnsAt place := by
  ext a b
  simp

variable [Scalar α]

theorem columnsAt_divideRow (g : Grid α r k) (place : Fin l → Fin k) (row : Fin r) (divisor : α) :
    (g.columnsAt place).divideRow row 0 divisor = (g.divideRow row 0 divisor).columnsAt place := by
  ext a b
  simp

theorem columnsAt_subtractMultiples (g : Grid α r k) (place : Fin l → Fin k) (row : Fin r)
    (multipliers : Vector (Option α) r) : (g.columnsAt place).subtractMultiples row 0 multipliers =
      (g.subtractMultiples row 0 multipliers).columnsAt place := by
  ext a b
  simp only [entry_subtractMultiples, entry_columnsAt, Nat.zero_le, if_true]

def unitColumn (j : Fin n) : Grid α n 1 :=
  .build fun i _ => if i = j then 1 else 0

theorem columnsAt_identity (j : Fin n) : (identity : Grid α n n).columnsAt (fun _ => j) = unitColumn j := by
  ext i b
  simp [unitColumn]

end Grid

namespace System

variable [Scalar α] (s : System α r c k) (t : System α n n k) (place : Fin l → Fin k) (tolerance : α)

def columnsAt : System α r c l :=
  ⟨s.left, s.right.columnsAt place⟩

omit [Scalar α] in
theorem columnsAt_swapRows (i j : Fin r) : (s.columnsAt place).swapRows i j = (s.swapRows i j).columnsAt place := by
  rw [swapRows, columnsAt, Grid.columnsAt_swapRows]
  rfl

theorem columnsAt_normalize (row : Fin r) (col : Fin c) :
    (s.columnsAt place).normalize row col = (s.normalize row col).columnsAt place := by
  rw [normalize, normalize]
  by_cases one : Scalar.eq (s.left.entry row col) 1 = true
  · rw [if_pos one]
    exact if_pos one
  · rw [if_neg one, columnsAt, columnsAt, ← Grid.columnsAt_divideRow]
    exact if_neg one

theorem columnsAt_clearBelow (row : Fin r) (col : Fin c) :
    (s.columnsAt place).clearBelow row col = (s.clearBelow row col).columnsAt place := by
  rw [clearBelow, columnsAt, Grid.columnsAt_subtractMultiples]
  rfl

theorem columnsAt_clearAbove (row : Fin r) (col : Fin c) :
    (s.columnsAt place).clearAbove row col = (s.clearAbove row col).columnsAt place := by
  rw [clearAbove, columnsAt, Grid.columnsAt_subtractMultiples]
  rfl

theorem columnsAt_pivot (p : Fin n) :
    (t.columnsAt place).pivot tolerance p = (t.pivot tolerance p).map (columnsAt · place) := by
  rw [pivot, pivot]
  by_cases negligible : Scalar.isNegligible tolerance (t.left.entry p p) = true
  · rw [if_pos negligible, columnsAt, if_pos negligible]
    cases t.left.findPivot tolerance p (p + 1) with
    | none => rfl
    | some i => exact congrArg Except.ok (t.columnsAt_swapRows place p i)
  · rw [if_neg negligible, columnsAt, if_neg negligible]
    rfl

theorem columnsAt_reduceStep (p : Fin n) :
    (t.columnsAt place).reduceStep tolerance p = (t.reduceStep tolerance p).map (columnsAt · place) := by
  rw [reduceStep, reduceStep, columnsAt_pivot]
  cases t.pivot tolerance p with
  | error e => rfl
  | ok u =>
    change Except.ok (((u.columnsAt place).normalize p p).clearBelow p p) =
      Except.ok (((u.normalize p p).clearBelow p p).columnsAt place)
    rw [columnsAt_normalize, columnsAt_clearBelow]

theorem columnsAt_reduce :
    (t.columnsAt place).reduce tolerance = (t.reduce tolerance).map (columnsAt · place) :=
  foldlM_map_state (f := (columnsAt · place)) (fun u p => u.columnsAt_reduceStep place tolerance p) _ t

theorem columnsAt_backSubstitute : (t.columnsAt place).backSubstitute = t.backSubstitute.columnsAt place :=
  List.foldl_hom (columnsAt · place) fun u p => u.columnsAt_clearAbove place p p

end System

namespace Grid

variable [Scalar α] (g : Grid α n n) (tolerance : α)

/-- Solving for some of the columns gives these columns of the solution. -/
theorem solve_columnsAt (rightSide : Grid α n k) (place : Fin l → Fin k) :
    g.solve tolerance (rightSide.columnsAt place) = (g.solve tolerance rightSide).map (columnsAt · place) := by
  have run := System.columnsAt_reduce ⟨g, rightSide⟩ place tolerance
  rw [solve, solve]
  change (System.reduce tolerance (System.columnsAt ⟨g, rightSide⟩ place)).map _ = _
  rw [run]
  cases System.reduce tolerance ⟨g, rightSide⟩ with
  | error e => rfl
  | ok s => exact congrArg (fun s => Except.ok s.right) (s.columnsAt_backSubstitute place)

/-- What is left of a run without its right-hand sides: whether it has an end, and the column where it stops if not. -/
theorem solve_map_unit (e : Grid α n k) (f : Grid α n l) :
    (g.solve tolerance e).map (fun _ => ()) = (g.solve tolerance f).map fun _ => () := by
  have alone : e.columnsAt Fin.elim0 = f.columnsAt Fin.elim0 := by
    ext i j
    exact j.elim0
  have same := congrArg (Except.map fun _ => ()) (congrArg (g.solve tolerance) alone)
  rw [solve_columnsAt, solve_columnsAt] at same
  generalize g.solve tolerance e = x, g.solve tolerance f = y at same ⊢
  cases x <;> cases y <;> exact same

theorem solve_beside (e : Grid α n k) (f : Grid α n l) : g.solve tolerance (e.beside f) =
    (g.solve tolerance e).bind fun x => (g.solve tolerance f).map x.beside := by
  have left := g.solve_columnsAt tolerance (e.beside f) (Fin.castAdd l)
  have right := g.solve_columnsAt tolerance (e.beside f) (Fin.natAdd k)
  rw [columnsAt_beside_left] at left
  rw [columnsAt_beside_right] at right
  rw [left, right]
  cases g.solve tolerance (e.beside f) with
  | error column => rfl
  | ok x => exact congrArg Except.ok x.beside_columnsAt.symm

/-- A column of the inverse is the solution for the column with a one at its place. -/
theorem solve_unitColumn (j : Fin n) :
    g.solve tolerance (unitColumn j) = (g.inverse tolerance).map (columnsAt · fun _ => j) := by
  rw [← columnsAt_identity, solve_columnsAt]
  rfl

end Grid

/-- Runs that are the same but for their results both have one, or fail in the same way. -/
theorem same_end_of_map_unit {ε β γ : Type} {x : Except ε β} {y : Except ε γ}
    (same : x.map (fun _ => ()) = y.map fun _ => ()) :
    ((∃ a, x = .ok a) ↔ ∃ b, y = .ok b) ∧ ∀ e, x = .error e ↔ y = .error e := by
  cases x <;> cases y <;> simp_all [Except.map]

namespace DenseMatrix

theorem selectColumns?_singleton (g : Grid α r c) (j : Fin c) :
    selectColumns? ⟨r, c, g⟩ [((j : Nat) : Int)] = .ok ⟨r, 1, g.columnsAt fun _ => j⟩ := by
  have alone : ascending [((j : Nat) : Int)] = List.ofFn fun _ : Fin 1 => ((j : Nat) : Int) := rfl
  rw [selectColumns?, alone, positions?_ofFn]
  refine congrArg Except.ok (mk_eq_mk rfl rfl fun i b => ?_)
  simp

variable [Scalar α] (g : Grid α n n) (tolerance : α)

theorem solve?_map_unit (e : Grid α n k) (f : Grid α n l) :
    (solve? tolerance ⟨n, n, g⟩ ⟨n, k, e⟩).map (fun _ => ()) =
      (solve? tolerance ⟨n, n, g⟩ ⟨n, l, f⟩).map fun _ => () := by
  have same := g.solve_map_unit tolerance e f
  rw [solve?_square, solve?_square]
  generalize g.solve tolerance e = x, g.solve tolerance f = y at same ⊢
  cases x <;> cases y <;> simp_all [Except.map, ofReduction]

theorem solve?_beside (e : Grid α n k) (f : Grid α n l) :
    (beside? ⟨n, k, e⟩ ⟨n, l, f⟩ >>= solve? tolerance ⟨n, n, g⟩) =
      (solve? tolerance ⟨n, n, g⟩ ⟨n, k, e⟩ >>= fun x =>
        solve? tolerance ⟨n, n, g⟩ ⟨n, l, f⟩ >>= fun y => x.beside? y) := by
  rw [beside?_mk, solve?_square, solve?_square]
  change solve? tolerance ⟨n, n, g⟩ ⟨n, k + l, e.beside f⟩ = _
  rw [solve?_square, Grid.solve_beside]
  cases g.solve tolerance e with
  | error column => rfl
  | ok x =>
    cases g.solve tolerance f with
    | error column => rfl
    | ok y => exact (beside?_mk x y).symm

theorem canSolve_iff (e : Grid α n k) :
    canSolve tolerance ⟨n, n, g⟩ = true ↔ ∃ x, solve? tolerance ⟨n, n, g⟩ ⟨n, k, e⟩ = .ok x := by
  rw [← (same_end_of_map_unit (solve?_map_unit g tolerance (.constant 0 : Grid α n 1) e)).1, canSolve]
  cases solve? tolerance ⟨n, n, g⟩ ⟨n, 1, .constant 0⟩ <;> simp

theorem exists_inverse?_iff :
    (∃ inv, inverse? tolerance ⟨n, n, g⟩ = .ok inv) ↔ canSolve tolerance ⟨n, n, g⟩ = true := by
  rw [canSolve_iff g tolerance .identity, inverse?_square, solve?_square, Grid.inverse]
  cases g.solve tolerance .identity <;> simp [ofReduction]

theorem solve?_unitColumn {inv : DenseMatrix α} (inverted : inverse? tolerance ⟨n, n, g⟩ = .ok inv) (j : Fin n) :
    solve? tolerance ⟨n, n, g⟩ ⟨n, 1, .unitColumn j⟩ = inv.selectColumns? [((j : Nat) : Int)] := by
  rw [inverse?_square] at inverted
  rw [solve?_square, Grid.solve_unitColumn]
  cases run : g.inverse tolerance with
  | error column =>
    rw [run] at inverted
    cases inverted
  | ok inverse =>
    rw [run] at inverted
    cases inverted
    exact (selectColumns?_singleton inverse j).symm

/-- Over any scalars the coefficients alone decide whether there is a solution and which column is named if there is
none, and each column of the right-hand sides is solved for as if it were the only one. So an inverse is made of the
solutions for the unit columns, and the test with zeros speaks for all right-hand sides. -/
theorem solve?_acts_on_columns (g : Grid α n n) (tolerance : α) :
    (∀ {k l : Nat} (e : Grid α n k) (f : Grid α n l),
      ((∃ x, solve? tolerance ⟨n, n, g⟩ ⟨n, k, e⟩ = .ok x) ↔ ∃ y, solve? tolerance ⟨n, n, g⟩ ⟨n, l, f⟩ = .ok y) ∧
      (∀ fault, solve? tolerance ⟨n, n, g⟩ ⟨n, k, e⟩ = .error fault ↔
        solve? tolerance ⟨n, n, g⟩ ⟨n, l, f⟩ = .error fault) ∧
      (beside? ⟨n, k, e⟩ ⟨n, l, f⟩ >>= solve? tolerance ⟨n, n, g⟩) =
        (solve? tolerance ⟨n, n, g⟩ ⟨n, k, e⟩ >>= fun x =>
          solve? tolerance ⟨n, n, g⟩ ⟨n, l, f⟩ >>= fun y => x.beside? y)) ∧
    (∀ inv, inverse? tolerance ⟨n, n, g⟩ = .ok inv → ∀ j : Fin n,
      solve? tolerance ⟨n, n, g⟩ ⟨n, 1, .unitColumn j⟩ = inv.selectColumns? [((j : Nat) : Int)]) ∧
    ((∃ inv, inverse? tolerance ⟨n, n, g⟩ = .ok inv) ↔ canSolve tolerance ⟨n, n, g⟩ = true) ∧
    (canSolve tolerance ⟨n, n, g⟩ = true ↔
      ∀ {k : Nat} (e : Grid α n k), ∃ x, solve? tolerance ⟨n, n, g⟩ ⟨n, k, e⟩ = .ok x) := by
  refine ⟨fun e f => ?_, fun inv inverted => solve?_unitColumn g tolerance inverted, exists_inverse?_iff g tolerance,
    ?_⟩
  · obtain ⟨found, failed⟩ := same_end_of_map_unit (solve?_map_unit g tolerance e f)
    exact ⟨found, failed, solve?_beside g tolerance e f⟩
  · exact ⟨fun solvable _ e => (canSolve_iff g tolerance e).1 solvable,
      fun solved => (canSolve_iff g tolerance (.constant 0 : Grid α n 1)).2 (solved _)⟩

/-- Over doubles, with an exchange and a pivot so small that the inverse holds an infinity and a NaN. -/
theorem solve?_acts_on_columns_of_overflow : ∃ inv,
    inverse? (0 : Float) ⟨2, 2, .ofLists 0 [[0, 2], [1e-320, 1]]⟩ = .ok inv ∧
      inv.toLists.map (·.map Float.isNaN) = [[false, true], [false, false]] ∧
      solve? (0 : Float) ⟨2, 2, .ofLists 0 [[0, 2], [1e-320, 1]]⟩ ⟨2, 1, .unitColumn 1⟩ = inv.selectColumns? [1] := by
  obtain ⟨_, columns, invertible, _⟩ :=
    solve?_acts_on_columns (n := 2) (.ofLists 0 [[0, 2], [1e-320, 1]]) (0 : Float)
  obtain ⟨inv, inverted⟩ := invertible.2 (by decide +kernel)
  have notNumbers : (inverse? (0 : Float) ⟨2, 2, .ofLists 0 [[0, 2], [1e-320, 1]]⟩).toOption.map
      (fun inv => inv.toLists.map (·.map Float.isNaN)) = some [[false, true], [false, false]] := by decide +kernel
  rw [inverted] at notNumbers
  exact ⟨inv, inverted, Option.some.inj notNumbers, columns inv inverted 1⟩

end DenseMatrix

end Polyhedra
