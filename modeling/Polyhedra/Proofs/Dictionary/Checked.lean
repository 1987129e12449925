import Mathlib
import Polyhedra.DenseMatrix.Elimination
import Polyhedra.Dictionary
import Polyhedra.Proofs.DenseMatrix.Fitting
import Polyhedra.Proofs.Dictionary.Certificate

/-!
# Evaluation with every check in place

The table of a dictionary has its size in its type, so that building one never fails. Here the same evaluation goes
step by step through matrices of any size: compose, select, invert, transpose, multiply, subtract and read, where each
step refuses what does not fit. Only a missing pivot counts as an answer. The check of the partition alone makes all
sizes and indices fit, so that nothing is refused and the answer is the dictionary, over any scalars.
-/

namespace Polyhedra

/-- Why a checked evaluation breaks off: an operation on matrices is refused, a coordinate has no place or no value, or a
list of indices has none at a place. -/
inductive Breakdown where
  | matrix (fault : MatrixFault)
  | coordinate (fault : PointFault)
  | noIndex (place : Nat)

/-- The table of a basis as matrices of any size, with its point and verdict. -/
structure Sheet (α : Type) where
  zeta : α
  values : DenseMatrix α
  costs : DenseMatrix α
  coefficients : DenseMatrix α
  point : List α
  verdict : Verdict α

/-- The answer of a checked evaluation; a partition that is no basis has no sheet. -/
inductive Answer (α : Type) where
  | invalid (basic nonBasic : List Int) (fault : PartitionFault)
  | notBasic (basic nonBasic : List Int)
  | evaluated (basic nonBasic : List Int) (sheet : Sheet α)

def Tableau.sheet {α : Type} [Zero α] {m n : Nat} (t : Tableau α m n) (basic : List Int) (verdict : Verdict α) : Sheet α where
  zeta := t.zeta
  values := ⟨m, 1, .ofColumn t.values⟩
  costs := ⟨1, n, .ofRow t.costs⟩
  coefficients := ⟨m, n, t.coefficients⟩
  point := coordinates basic t.values.toList n
  verdict := verdict

def Dictionary.answer {α : Type} [Zero α] (d : Dictionary α) : Answer α :=
  match d.outcome with
  | .invalid fault => .invalid d.basic d.nonBasic fault
  | .notBasic => .notBasic d.basic d.nonBasic
  | .evaluated t verdict => .evaluated d.basic d.nonBasic (t.sheet d.basic verdict)

namespace Grid

variable {α : Type} {r c : Nat}

@[simp] theorem entry_ofColumn (v : Vector α r) (i : Fin r) (j : Fin 1) : (ofColumn v).entry i j = v.get i :=
  entry_build _ i j

@[simp] theorem entry_ofRow (v : Vector α c) (i : Fin 1) (j : Fin c) : (ofRow v).entry i j = v.get j :=
  entry_build _ i j

theorem ofColumn_toColumn (g : Grid α r 1) : ofColumn g.toColumn = g := by
  ext i j
  rw [entry_ofColumn, toColumn, get_ofFn, Subsingleton.elim j 0]

end Grid

namespace Checked

variable {α β γ ε : Type}

/-! ### The steps -/

def fit (x : Except MatrixFault β) : Except Breakdown β := x.mapError .matrix

theorem fit_ok (x : β) : fit (.ok x) = .ok x := rfl

def read? (a : DenseMatrix α) (i j : Nat) : Except Breakdown α :=
  fit (a.get? (.pair (.whole i) (.whole j)))

def index? (l : List Int) (place : Nat) : Except Breakdown Int :=
  match l[place]? with
  | some i => .ok i
  | none => .error (.noIndex place)

variable [Scalar α]

/-- Classify a table, its entries read one by one. -/
def classify? (tolerance : α) (basic nonBasic : List Int) (values costs coefficients : DenseMatrix α) :
    Except Breakdown (Verdict α) := do
  let negative ← (List.range values.rows).findM? fun i => return Scalar.lt (← read? values i 0) (-tolerance)
  match negative with
  | some i => return .infeasible (← index? basic i) (← read? values i 0)
  | none =>
    let improving ← (List.range costs.cols).filterM fun j => return Scalar.lt tolerance (← read? costs 0 j)
    if improving.isEmpty then return .optimal
    let ray ← improving.findM? fun j =>
      (List.range coefficients.rows).allM fun i => return Scalar.le (-tolerance) (← read? coefficients i j)
    match ray with
    | some j => return .unbounded (← index? nonBasic j)
    | none => return .suboptimal improving.length

/-- The table of a basis, from the inverse of its columns. `system` is `[A | I]` and `costs` the objective with zeros for
the slacks. -/
def sheet? (system costs bounds inverse : DenseMatrix α) (numVars : Nat) (basic nonBasic : List Int) (tolerance : α) :
    Except Breakdown (Sheet α) := do
  let basicCosts ← fit (costs.selectRows? basic)
  let otherCosts ← fit (costs.selectRows? nonBasic)
  let others ← fit (system.selectColumns? nonBasic)
  let values ← fit (inverse.multiply? bounds)
  let zeta ← read? (← fit (basicCosts.transpose.multiply? values)) 0 0
  let carried ← fit ((← fit (basicCosts.transpose.multiply? inverse)).multiply? others)
  let reduced ← fit (otherCosts.transpose.subtract? carried)
  let coefficients ← fit (inverse.multiply? (← fit ((system.scale (-1)).selectColumns? nonBasic)))
  let point ← (fillPoint? values numVars basic.zipIdx (List.replicate numVars 0)).mapError .coordinate
  let verdict ← classify? tolerance basic nonBasic values reduced coefficients
  return { zeta, values, costs := reduced, coefficients, point, verdict }

/-- Evaluate a valid partition, given in ascending order. A fault other than a missing pivot breaks the evaluation off. -/
def evaluate? (a b c : DenseMatrix α) (basic nonBasic : List Int) (tolerance pivotTolerance : α) :
    Except Breakdown (Answer α) := do
  let system ← fit (a.beside? (.identity a.rows))
  let costs ← fit (c.above? ⟨a.rows, 1, .constant 0⟩)
  match (← fit (system.selectColumns? basic)).inverse? pivotTolerance with
  | .error .singular => return .notBasic basic nonBasic
  | .error (.noPivot ..) => return .notBasic basic nonBasic
  | .error fault => throw (.matrix fault)
  | .ok inverse =>
    return .evaluated basic nonBasic (← sheet? system costs b inverse a.cols basic nonBasic tolerance)

def build? (a b c : DenseMatrix α) (basic nonBasic : List Int) (tolerance pivotTolerance : α) :
    Except Breakdown (Answer α) :=
  match companions? false a b c with
  | .error fault => .error (.matrix fault)
  | .ok _ =>
    match Partition.check basic nonBasic a.cols a.rows with
    | .error fault => .ok (.invalid basic nonBasic fault)
    | .ok _ => evaluate? a b c (ascending basic) (ascending nonBasic) tolerance pivotTolerance

/-! ### Loops that read what is there -/

omit [Scalar α] in
theorem ok_bind (x : β) (f : β → Except ε γ) : (Except.ok x >>= f) = f x := rfl

section Loops

variable {place : β → γ} {f : γ → Except ε Bool} {g : β → Bool}

theorem findM?_map (total : ∀ x, f (place x) = .ok (g x)) (l : List β) :
    (l.map place).findM? f = .ok ((l.find? g).map place) := by
  induction l with
  | nil => rfl
  | cons x l ih =>
    rw [List.map_cons, List.findM?, total, List.find?_cons]
    cases g x with
    | true => rfl
    | false => exact ih

theorem allM_map (total : ∀ x, f (place x) = .ok (g x)) (l : List β) : (l.map place).allM f = .ok (l.all g) := by
  induction l with
  | nil => rfl
  | cons x l ih =>
    rw [List.map_cons, List.allM, total, List.all_cons]
    cases g x with
    | true => exact ih
    | false => rfl

theorem filterAuxM_map (total : ∀ x, f (place x) = .ok (g x)) (l : List β) (kept : List γ) :
    (l.map place).filterAuxM f kept = .ok (((l.filter g).map place).reverse ++ kept) := by
  induction l generalizing kept with
  | nil => rfl
  | cons x l ih =>
    rw [List.map_cons, List.filterAuxM, total, List.filter_cons]
    cases g x with
    | true => exact (ih (place x :: kept)).trans (by simp)
    | false => exact ih kept

theorem filterM_map (total : ∀ x, f (place x) = .ok (g x)) (l : List β) :
    (l.map place).filterM f = .ok ((l.filter g).map place) := by
  rw [List.filterM, filterAuxM_map total]
  simp [pure, Except.pure, bind, Except.bind]

end Loops

/-! ### Fitting sizes -/

section Fitting

variable {m n r k : Nat}

omit [Scalar α] in
theorem read?_mk (g : Grid α r k) (i : Fin r) (j : Fin k) : read? ⟨r, k, g⟩ i j = .ok (g.entry i j) := by
  rw [read?, DenseMatrix.get?_mk]
  rfl

theorem index?_of_lt {l : List Int} {i : Nat} (inside : i < l.length) : index? l i = .ok (l.getD i 0) := by
  rw [index?, List.getElem?_eq_getElem inside, List.getD_eq_getElem l 0 inside]

/-- Reading the entries one by one comes to the same verdict as looking at the table. -/
theorem classify?_eq {basic nonBasic : List Int} (t : Tableau α m n) (tolerance : α) (basicSize : basic.length = m)
    (nonBasicSize : nonBasic.length = n) :
    classify? tolerance basic nonBasic ⟨m, 1, .ofColumn t.values⟩ ⟨1, n, .ofRow t.costs⟩ ⟨m, n, t.coefficients⟩ =
      .ok (t.classify tolerance basic nonBasic) := by
  have value (i : Fin m) : read? ⟨m, 1, .ofColumn t.values⟩ i 0 = .ok (t.values.get i) := by
    rw [← Grid.entry_ofColumn t.values i 0]
    exact read?_mk _ i 0
  have cost (j : Fin n) : read? ⟨1, n, .ofRow t.costs⟩ 0 j = .ok (t.costs.get j) := by
    rw [← Grid.entry_ofRow t.costs 0 j]
    exact read?_mk _ 0 j
  have negatives : ((List.range m).findM? fun i => do
      return Scalar.lt (← read? ⟨m, 1, .ofColumn t.values⟩ i 0) (-tolerance) : Except Breakdown (Option Nat)) =
        .ok (((List.finRange m).find? fun i => Scalar.lt (t.values.get i) (-tolerance)).map Fin.val) := by
    rw [← List.map_coe_finRange_eq_range]
    exact findM?_map (fun i => by rw [value]; rfl) _
  have improvements : ((List.range n).filterM fun j => do
      return Scalar.lt tolerance (← read? ⟨1, n, .ofRow t.costs⟩ 0 j) : Except Breakdown (List Nat)) =
        .ok ((t.improving tolerance).map Fin.val) := by
    rw [← List.map_coe_finRange_eq_range]
    exact filterM_map (fun j => by rw [cost]; rfl) _
  have rises (j : Fin n) : ((List.range m).allM fun i => do
      return Scalar.le (-tolerance) (← read? ⟨m, n, t.coefficients⟩ i j) : Except Breakdown Bool) =
        .ok (t.isRay tolerance j) := by
    rw [← List.map_coe_finRange_eq_range]
    exact allM_map (fun i => by rw [read?_mk t.coefficients i j]; rfl) _
  rw [classify?, Tableau.classify, negatives, ok_bind]
  cases (List.finRange m).find? fun i => Scalar.lt (t.values.get i) (-tolerance) with
  | some i =>
    simp only [Option.map_some, value, index?_of_lt (show (i : Nat) < basic.length by omega), ok_bind]
    rfl
  | none =>
    simp only [Option.map_none]
    rw [improvements, ok_bind]
    cases t.improving tolerance with
    | nil => rfl
    | cons first others =>
      rw [if_neg (by simp), findM?_map rises, ok_bind]
      dsimp only
      cases (first :: others).find? (t.isRay tolerance) with
      | some j =>
        simp only [Option.map_some, index?_of_lt (show (j : Nat) < nonBasic.length by omega), ok_bind]
        rfl
      | none => simp [pure, Except.pure]

/-! ### The table -/

variable (p : Program α m n) (s : Split m n)

abbrev system : Grid α m (n + m) := p.constraints.beside .identity

abbrev costs : Grid α (n + m) 1 := (Grid.ofColumn p.objective).above (.constant 0)

theorem entry_system (i : Fin m) (k : Fin (n + m)) : (system p).entry i k = p.augmented i k := by
  refine Fin.addCases (fun j => ?_) (fun l => ?_) k
  · rw [Grid.entry_beside_left, Program.augmented_castAdd]
  · rw [Grid.entry_beside_right, Grid.entry_identity, Program.augmented_natAdd]

theorem entry_costs (k : Fin (n + m)) : (costs p).entry k 0 = p.cost k := by
  refine Fin.addCases (fun j => ?_) (fun l => ?_) k
  · rw [Grid.entry_above_upper, Grid.entry_ofColumn, Program.cost_castAdd]
  · rw [Grid.entry_above_lower, Grid.entry_constant, Program.cost_natAdd]

theorem select_system (at_ : Fin k ↪o Fin (n + m)) :
    DenseMatrix.selectColumns? ⟨m, n + m, system p⟩ (Split.indexList at_) =
      .ok ⟨m, k, p.columns (Split.indexList at_) k⟩ := by
  rw [DenseMatrix.selectColumns?_mk]
  simp only [entry_system, Program.columns, Program.indexAt_indexList]

theorem select_scaledSystem (factor : α) (at_ : Fin k ↪o Fin (n + m)) :
    DenseMatrix.selectColumns? ⟨m, n + m, (system p).scale factor⟩ (Split.indexList at_) =
      .ok ⟨m, k, (p.columns (Split.indexList at_) k).scale factor⟩ := by
  rw [DenseMatrix.selectColumns?_mk]
  simp only [Grid.scale, Grid.map, Grid.entry_build, entry_system, Program.columns, Program.indexAt_indexList]

theorem select_costs (at_ : Fin k ↪o Fin (n + m)) :
    DenseMatrix.selectRows? ⟨n + m, 1, costs p⟩ (Split.indexList at_) =
      .ok ⟨k, 1, .ofColumn (p.costs (Split.indexList at_) k)⟩ := by
  rw [DenseMatrix.selectRows?_mk]
  refine congrArg (fun g => Except.ok (⟨k, 1, g⟩ : DenseMatrix α)) (Grid.ext fun i j => ?_)
  rw [Grid.entry_build, Grid.entry_ofColumn, Subsingleton.elim j 0, entry_costs, Program.costs, get_ofFn,
    Program.indexAt_indexList]

omit [Scalar α] in
theorem transpose_column (v : Vector α k) : DenseMatrix.transpose ⟨k, 1, .ofColumn v⟩ = ⟨1, k, .ofRow v⟩ := by
  rw [DenseMatrix.transpose]
  refine congrArg (fun g => (⟨1, k, g⟩ : DenseMatrix α)) (Grid.ext fun i j => ?_)
  rw [Grid.entry_transpose, Grid.entry_ofColumn, Grid.entry_ofRow]

/-! ### The point -/

omit [Scalar α] in
theorem fillPoint?_map (v : Vector α m) (at_ : Fin m → Nat) (rows : List (Fin m)) (point : List α) :
    fillPoint? ⟨m, 1, .ofColumn v⟩ n (rows.map fun i => ((at_ i : Int), (i : Nat))) point =
      .ok ((rows.map fun i => ((at_ i : Int), v.get i)).foldl (fun point entry =>
        if entry.1 < (n : Int) then point.set entry.1.toNat entry.2 else point) point) := by
  induction rows generalizing point with
  | nil => rfl
  | cons i rows ih =>
    rw [List.map_cons, List.map_cons, List.foldl_cons, fillPoint?]
    by_cases slack : (n : Int) ≤ (at_ i : Int)
    · rw [if_pos slack, if_neg (by omega), ih]
    · have nonneg : ¬((at_ i : Int) < 0) := by omega
      have value : DenseMatrix.get? ⟨m, 1, .ofColumn v⟩ (.pair (.whole (i : Nat)) (.whole 0)) = .ok (v.get i) := by
        rw [← Grid.entry_ofColumn v i 0]
        exact DenseMatrix.get?_mk _ i 0
      simp only [if_neg slack, if_neg nonneg, value]
      rw [if_pos (by omega), ih]

theorem fillPoint?_indexList (v : Vector α m) (at_ : Fin m ↪o Fin (n + m)) :
    fillPoint? ⟨m, 1, .ofColumn v⟩ n (Split.indexList at_).zipIdx (List.replicate n 0) =
      .ok (coordinates (Split.indexList at_) v.toList n) := by
  have rows : (Split.indexList at_).zipIdx = (List.finRange m).map fun i => (((at_ i : Nat) : Int), (i : Nat)) :=
    List.ext_getElem (by simp) (by simp [Split.indexList])
  have values : (Split.indexList at_).zip v.toList = (List.finRange m).map fun i => (((at_ i : Nat) : Int), v.get i) :=
    List.ext_getElem (by simp) (by simp [Split.indexList, Vector.get])
  rw [rows, coordinates, values]
  exact fillPoint?_map v (fun i => at_ i) _ _

/-! ### The evaluation -/

/-- From the columns of a split and an inverse, every step fits and the sheet is that of the table. -/
theorem sheet?_eq (inverse : Grid α m m) (tolerance : α) :
    sheet? ⟨m, n + m, system p⟩ ⟨n + m, 1, costs p⟩ ⟨m, 1, .ofColumn p.bounds⟩ ⟨m, m, inverse⟩ n s.partition.basic
        s.partition.nonBasic tolerance =
      .ok ((p.tableau s.partition.basic s.partition.nonBasic inverse).sheet s.partition.basic
        ((p.tableau s.partition.basic s.partition.nonBasic inverse).classify tolerance s.partition.basic
          s.partition.nonBasic)) := by
  set t := p.tableau s.partition.basic s.partition.nonBasic inverse with table
  have basicCosts : DenseMatrix.selectRows? ⟨n + m, 1, costs p⟩ s.partition.basic =
      .ok ⟨m, 1, .ofColumn (p.costs s.partition.basic m)⟩ := select_costs p s.basicAt
  have otherCosts : DenseMatrix.selectRows? ⟨n + m, 1, costs p⟩ s.partition.nonBasic =
      .ok ⟨n, 1, .ofColumn (p.costs s.partition.nonBasic n)⟩ := select_costs p s.nonBasicAt
  have others : DenseMatrix.selectColumns? ⟨m, n + m, system p⟩ s.partition.nonBasic =
      .ok ⟨m, n, p.columns s.partition.nonBasic n⟩ := select_system p s.nonBasicAt
  have negated : DenseMatrix.selectColumns? ⟨m, n + m, (system p).scale (-1)⟩ s.partition.nonBasic =
      .ok ⟨m, n, (p.columns s.partition.nonBasic n).scale (-1)⟩ := select_scaledSystem p (-1) s.nonBasicAt
  have values : inverse.mul (.ofColumn p.bounds) = .ofColumn t.values := (Grid.ofColumn_toColumn _).symm
  have reduced : (Grid.ofRow (p.costs s.partition.nonBasic n)).zipWith (· - ·)
      (((Grid.ofRow (p.costs s.partition.basic m)).mul inverse).mul (p.columns s.partition.nonBasic n)) =
        .ofRow t.costs := by
    ext i j
    rw [Grid.entry_zipWith, Grid.entry_ofRow, Grid.entry_ofRow, table, Program.tableau, get_ofFn, Grid.toRow, get_ofFn,
      Subsingleton.elim i 0]
  have zeta : read? ⟨1, 1, (Grid.ofRow (p.costs s.partition.basic m)).mul (.ofColumn t.values)⟩ 0 0 = .ok t.zeta := by
    rw [← values]
    exact read?_mk _ 0 0
  have coefficients : inverse.mul ((p.columns s.partition.nonBasic n).scale (-1)) = t.coefficients := rfl
  have point : fillPoint? ⟨m, 1, .ofColumn t.values⟩ n s.partition.basic.zipIdx (List.replicate n 0) =
      .ok (coordinates s.partition.basic t.values.toList n) := fillPoint?_indexList t.values s.basicAt
  have verdict : classify? tolerance s.partition.basic s.partition.nonBasic ⟨m, 1, .ofColumn t.values⟩
      ⟨1, n, .ofRow t.costs⟩ ⟨m, n, t.coefficients⟩ = .ok (t.classify tolerance s.partition.basic s.partition.nonBasic) :=
    classify?_eq t tolerance (Split.length_indexList _) (Split.length_indexList _)
  -- A line for each stage: the selected entries, the values, zeta, the costs, and the coefficients with the point.
  rw [sheet?, basicCosts, fit_ok, ok_bind, otherCosts, fit_ok, ok_bind, others, fit_ok, ok_bind]
  rw [DenseMatrix.multiply?_mk, fit_ok, ok_bind, values, transpose_column, transpose_column]
  rw [DenseMatrix.multiply?_mk, fit_ok, ok_bind, zeta, ok_bind]
  rw [DenseMatrix.multiply?_mk, fit_ok, ok_bind, DenseMatrix.multiply?_mk, fit_ok, ok_bind, DenseMatrix.subtract?_mk,
    fit_ok, ok_bind, reduced]
  rw [DenseMatrix.scale, negated, fit_ok, ok_bind, DenseMatrix.multiply?_mk, fit_ok, ok_bind, coefficients, point,
    Except.mapError, ok_bind]
  rw [verdict, ok_bind]
  rfl

/-- The evaluation of a split is never broken off, and its answer is the dictionary. -/
theorem evaluate?_eq (tolerance pivotTolerance : α) :
    evaluate? ⟨m, n, p.constraints⟩ ⟨m, 1, .ofColumn p.bounds⟩ ⟨n, 1, .ofColumn p.objective⟩ s.partition.basic
        s.partition.nonBasic tolerance pivotTolerance =
      .ok (Dictionary.answer ⟨m, n, s.partition.basic, s.partition.nonBasic,
        Dictionary.evaluate p s.partition.basic s.partition.nonBasic tolerance pivotTolerance⟩) := by
  have chosen : DenseMatrix.selectColumns? ⟨m, n + m, system p⟩ s.partition.basic =
      .ok ⟨m, m, p.columns s.partition.basic m⟩ := select_system p s.basicAt
  rw [evaluate?, DenseMatrix.identity, DenseMatrix.beside?_mk, fit_ok, ok_bind, DenseMatrix.above?_mk, fit_ok, ok_bind,
    chosen, fit_ok, ok_bind, DenseMatrix.inverse?_square, Dictionary.evaluate]
  cases (p.columns s.partition.basic m).inverse pivotTolerance with
  | error column => rfl
  | ok inverse =>
    dsimp only
    rw [sheet?_eq, ok_bind]
    rfl

end Fitting

/-! ### The answer -/

theorem build?_program {m n : Nat} (p : Program α m n) (basic nonBasic : List Int) (tolerance pivotTolerance : α) :
    build? ⟨m, n, p.constraints⟩ ⟨m, 1, .ofColumn p.bounds⟩ ⟨n, 1, .ofColumn p.objective⟩ basic nonBasic tolerance
        pivotTolerance =
      .ok (Dictionary.build p basic nonBasic tolerance pivotTolerance).answer := by
  rw [build?, companions?, dif_pos ⟨rfl, rfl⟩, dif_pos ⟨rfl, rfl⟩, Dictionary.build]
  dsimp only
  cases checked : Partition.check basic nonBasic n m with
  | error fault => rfl
  | ok _ =>
    obtain ⟨s, sortedB, sortedN⟩ := Split.exists_of_check checked
    dsimp only
    rw [sortedB, sortedN, evaluate?_eq]

/-- For fitting shapes no step is refused, whatever the lists of indices are. -/
theorem build?_of_companions {a b c : DenseMatrix α} (basic nonBasic : List Int) (tolerance pivotTolerance : α)
    (bounds : b.size = (a.rows, 1)) (objective : c.size = (a.cols, 1)) :
    ∃ d, Dictionary.ofMatrices? a b c basic nonBasic tolerance pivotTolerance = .ok d ∧
      build? a b c basic nonBasic tolerance pivotTolerance = .ok d.answer := by
  obtain ⟨m, n, a⟩ := a
  obtain ⟨_, _, b⟩ := b
  obtain ⟨_, _, c⟩ := c
  obtain ⟨rfl, rfl⟩ := Prod.mk.inj bounds
  obtain ⟨rfl, rfl⟩ := Prod.mk.inj objective
  have answered := build?_program ⟨a, b.toColumn, c.toColumn⟩ basic nonBasic tolerance pivotTolerance
  rw [Grid.ofColumn_toColumn, Grid.ofColumn_toColumn] at answered
  refine ⟨_, ?_, answered⟩
  rw [Dictionary.ofMatrices?, companions?, dif_pos ⟨rfl, rfl⟩, dif_pos ⟨rfl, rfl⟩, Grid.resize_self, Grid.resize_self]

theorem build?_of_bounds_ne {a b c : DenseMatrix α} (basic nonBasic : List Int) (tolerance pivotTolerance : α)
    (bounds : b.size ≠ (a.rows, 1)) :
    build? a b c basic nonBasic tolerance pivotTolerance = .error (.matrix (.companion .bounds false a.size b.size)) := by
  rw [build?, companions?, dif_neg fun h => bounds (Prod.ext h.1 h.2)]

theorem build?_of_objective_ne {a b c : DenseMatrix α} (basic nonBasic : List Int) (tolerance pivotTolerance : α)
    (bounds : b.size = (a.rows, 1)) (objective : c.size ≠ (a.cols, 1)) :
    build? a b c basic nonBasic tolerance pivotTolerance =
      .error (.matrix (.companion .objective false a.size c.size)) := by
  rw [build?, companions?, dif_pos (Prod.mk.inj bounds), dif_neg fun h => objective (Prod.ext h.1 h.2)]

end Checked

end Polyhedra
