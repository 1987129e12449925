import Mathlib
import Polyhedra.Elimination.Indexed
import Polyhedra.Elimination.System

/-!
# Clearing columns in place

Work on a table goes from row to row and finds rows that it has changed before, where a step on a system changes all
rows at once. Both come to the same over any scalars: the pivot row stays as it is, and so does every entry until it is
taken as a multiple. Work whose integers name no pivot leaves the table unchanged.
-/

namespace Polyhedra

variable {α β γ : Type} {r c k n : Nat}

namespace Work

/-! ### What work answers and leaves behind -/

/-- The answer of work on a table, if it does not break off, and the table it leaves. -/
def outcome (work : Work α β) (w : Workspace α) : Option β × Workspace α :=
  work.run.run w

theorem outcome_bind (work : Work α β) (next : β → Work α γ) (w : Workspace α) :
    outcome (work >>= next) w =
      match outcome work w with
      | (some x, v) => outcome (next x) v
      | (none, v) => (none, v) := by
  rcases h : outcome work w with ⟨_ | x, v⟩
  all_goals
    change (OptionT.run (work >>= next)).run w = _
    change (OptionT.run work).run w = _ at h
    rw [OptionT.run_bind, Option.elimM, StateT.run_bind, h]
    rfl

theorem outcome_bind_some {work : Work α β} {w v : Workspace α} {x : β} (h : outcome work w = (some x, v))
    (next : β → Work α γ) : outcome (work >>= next) w = outcome (next x) v := by
  rw [outcome_bind, h]

theorem outcome_bind_none {work : Work α β} {w v : Workspace α} (h : outcome work w = (none, v))
    (next : β → Work α γ) : outcome (work >>= next) w = (none, v) := by
  rw [outcome_bind, h]

theorem outcome_entry (row col : Int) (w : Workspace α) :
    outcome (entry row col) w = (w.left.entryAt? row col, w) := rfl

theorem outcome_rowCount (w : Workspace α) : outcome rowCount w = (some w.left.rows, w) := rfl

theorem outcome_changeLeft (f : DenseMatrix α → Option (DenseMatrix α)) (w : Workspace α) :
    outcome (changeLeft f) w =
      match f w.left with
      | some left => (some (), ⟨left, w.right⟩)
      | none => (none, w) := by
  change outcome (need (f w.left) >>= _) w = _
  cases h : f w.left <;> rfl

theorem outcome_changeRight (f : DenseMatrix α → Option (DenseMatrix α)) (left right : DenseMatrix α) :
    outcome (changeRight f) ⟨left, some right⟩ =
      match f right with
      | some right => (some (), ⟨left, some right⟩)
      | none => (none, ⟨left, some right⟩) := by
  change outcome (need (f right) >>= _) ⟨left, some right⟩ = _
  cases h : f right <;> rfl

/-- A loop keeps the view of a state if all of its steps do. -/
theorem outcome_forM {σ ι : Type} {view : σ → Workspace α} {step : σ → ι → σ} {work : ι → Work α Unit}
    (steps : ∀ s i, outcome (work i) (view s) = (some (), view (step s i))) (places : List ι) (s : σ) :
    outcome (forM places work) (view s) = (some (), view (places.foldl step s)) := by
  induction places generalizing s with
  | nil => rfl
  | cons i places ih =>
    rw [List.forM_cons, outcome_bind_some (steps s i), List.foldl_cons]
    exact ih (step s i)

/-- A loop whose steps change nothing changes nothing, wherever it breaks off. -/
theorem outcome_forM_unchanged {ι : Type} {work : ι → Work α Unit} {w : Workspace α} {places : List ι}
    (steps : ∀ i ∈ places, (outcome (work i) w).2 = w) : (outcome (forM places work) w).2 = w := by
  induction places with
  | nil => rfl
  | cons i places ih =>
    rw [List.forM_cons, outcome_bind]
    have first := steps i List.mem_cons_self
    rcases h : outcome (work i) w with ⟨_ | x, v⟩
    · rw [h] at first
      exact first
    · rw [h] at first
      subst first
      exact ih fun i hi => steps i (List.mem_cons_of_mem _ hi)

end Work

/-! ### Places named by integers -/

@[simp] theorem wrapped?_natCast {limit : Nat} (i : Fin limit) : wrapped? limit (i : Nat) = some i := by
  have place : (if ((i : Nat) : Int) < 0 then ((i : Nat) : Int) + limit else (i : Nat)) = (i : Nat) :=
    if_neg (not_lt.2 (Int.natCast_nonneg _))
  simp [wrapped?, place]

theorem wrapped?_of_le {limit : Nat} {i : Int} (h : limit ≤ i) : wrapped? limit i = none := by
  simp only [wrapped?]
  rw [dif_neg]
  omega

/-- The rows above a row, the nearest first. -/
def rowsAbove (row : Fin r) : List (Fin r) :=
  ((List.finRange row).map (Fin.castLE row.isLt.le)).reverse

theorem mem_rowsAbove {row i : Fin r} : i ∈ rowsAbove row ↔ i < row := by
  simp only [rowsAbove, List.mem_reverse, List.mem_map, List.mem_finRange, true_and]
  constructor
  · rintro ⟨a, rfl⟩
    exact a.isLt
  · intro above
    exact ⟨⟨i, above⟩, rfl⟩

theorem nodup_rowsAbove (row : Fin r) : (rowsAbove row).Nodup :=
  List.nodup_reverse.2 ((List.nodup_finRange _).map (Fin.castLE_injective _))

theorem reverse_span_zero (row : Fin r) :
    (span 0 (row : Nat)).reverse = (rowsAbove row).map fun i : Fin r => ((i : Nat) : Int) := by
  simp [span, rowsAbove, ← List.map_coe_finRange_eq_range]

theorem span_one_succ : span 1 ((n + 1 : Nat) : Int) =
    ((List.finRange n).map Fin.succ).map fun i : Fin (n + 1) => ((i : Nat) : Int) := by
  simp [span, ← List.map_coe_finRange_eq_range, add_comm]

/-! ### One row after the other -/

namespace Grid

variable [Scalar α] (g : Grid α r c) (h : Grid α r k) (row : Fin r) (col : Fin c)

/-- The multiples of a pivot row to be taken from the rows that a list names, the pivot being one. -/
def multipliersIn (targets : List (Fin r)) : Vector (Option α) r :=
  Vector.ofFn fun i =>
    if i ∈ targets ∧ Scalar.eq (g.entry i col) 0 = false then some (g.entry i col) else none

/-- What clearing a column of `g` in some rows does to a grid with the same rows, be it `g` or its right-hand sides. -/
theorem entry_subtract_multipliersIn (targets : List (Fin r)) (i : Fin r) (j : Fin k) :
    (h.subtractMultiples row 0 (g.multipliersIn col targets)).entry i j =
      if i ∈ targets ∧ Scalar.eq (g.entry i col) 0 = false then h.entry i j - g.entry i col * h.entry row j
      else h.entry i j := by
  rw [entry_subtractMultiples, multipliersIn, get_ofFn]
  by_cases taken : i ∈ targets ∧ Scalar.eq (g.entry i col) 0 = false
  · simp [taken]
  · simp [taken]

theorem entry_subtract_multipliersIn_of_ne {target i : Fin r} (other : i ≠ target) (j : Fin k) :
    (h.subtractMultiples row 0 (g.multipliersIn col [target])).entry i j = h.entry i j := by
  rw [entry_subtract_multipliersIn, if_neg]
  simp [other]

/-- A row cleared before the others makes no difference to them. -/
theorem subtract_multipliersIn_cons {row target : Fin r} {targets : List (Fin r)} (other : row ≠ target)
    (once : target ∉ targets) :
    (h.subtractMultiples row 0 (g.multipliersIn col [target])).subtractMultiples row 0
        ((g.subtractMultiples row 0 (g.multipliersIn col [target])).multipliersIn col targets) =
      h.subtractMultiples row 0 (g.multipliersIn col (target :: targets)) := by
  ext i j
  rw [entry_subtract_multipliersIn, entry_subtract_multipliersIn_of_ne _ _ _ _ other,
    entry_subtract_multipliersIn _ _ _ _ (target :: targets)]
  by_cases same : i = target
  · subst same
    rw [if_neg fun taken => once taken.1, entry_subtract_multipliersIn]
    simp
  · rw [entry_subtract_multipliersIn_of_ne _ _ _ _ same, entry_subtract_multipliersIn_of_ne _ _ _ _ same]
    simp [same]

theorem multipliersIn_singleton {target : Fin r} (nonzero : Scalar.eq (g.entry target col) 0 = false) :
    g.multipliersIn col [target] = Vector.ofFn fun i => if i = target then some (g.entry target col) else none := by
  rw [multipliersIn]
  congr 1
  funext i
  by_cases same : i = target
  · simp [same, nonzero]
  · simp [same]

theorem multipliersIn_rowsAbove : g.multipliersIn col (rowsAbove row) = g.multipliersAbove row col := by
  simp only [multipliersIn, multipliersAbove, mem_rowsAbove]

end Grid

/-! ### Systems as tables -/

namespace System

def workspace (s : System α r c k) : Workspace α :=
  ⟨⟨r, c, s.left⟩, some ⟨r, k, s.right⟩⟩

variable [Scalar α]

/-- Clear a column in the rows that a list names, the pivot being one. -/
def clearIn (row : Fin r) (col : Fin c) (targets : List (Fin r)) (s : System α r c k) : System α r c k :=
  let multipliers := s.left.multipliersIn col targets
  ⟨s.left.subtractMultiples row 0 multipliers, s.right.subtractMultiples row 0 multipliers⟩

variable (s : System α r c k) {row : Fin r} {col : Fin c}

theorem clearIn_of_zero {targets : List (Fin r)} (zero : ∀ i ∈ targets, Scalar.eq (s.left.entry i col) 0 = true) :
    s.clearIn row col targets = s := by
  have same {l : Nat} (h : Grid α r l) : h.subtractMultiples row 0 (s.left.multipliersIn col targets) = h := by
    ext i j
    rw [Grid.entry_subtract_multipliersIn, if_neg]
    rintro ⟨listed, nonzero⟩
    simp [zero i listed] at nonzero
  rw [clearIn, same, same]

/-- Rows cleared one after the other are cleared together, the pivot row not being one of them. -/
theorem foldl_clearIn {targets : List (Fin r)} (nodup : targets.Nodup) (other : row ∉ targets) :
    targets.foldl (fun s target => s.clearIn row col [target]) s = s.clearIn row col targets := by
  induction targets generalizing s with
  | nil => exact (s.clearIn_of_zero (by simp)).symm
  | cons target targets ih =>
    obtain ⟨once, nodup⟩ := List.nodup_cons.1 nodup
    obtain ⟨different, other⟩ := List.ne_and_not_mem_of_not_mem_cons other
    rw [List.foldl_cons, ih _ nodup other, clearIn, clearIn, clearIn,
      Grid.subtract_multipliersIn_cons _ _ _ different once, Grid.subtract_multipliersIn_cons _ _ _ different once]

theorem clearIn_rowsAbove : s.clearIn row col (rowsAbove row) = s.clearAbove row col := by
  rw [clearIn, Grid.multipliersIn_rowsAbove]
  rfl

/-- There is nothing above the first row. -/
theorem clearAbove_first {s : System α (n + 1) c k} : s.clearAbove 0 col = s := by
  rw [← clearIn_rowsAbove, clearIn_of_zero]
  intro i above
  exact absurd (mem_rowsAbove.1 above) (Fin.not_lt_zero i)

end System

namespace DenseMatrix

theorem subtractAt?_natCast [Scalar α] (g : Grid α r c) (target row : Fin r) (start : Nat) (x : α) :
    subtractAt? ⟨r, c, g⟩ (target : Nat) (row : Nat) start x =
      some ⟨r, c, g.subtractMultiples row start (Vector.ofFn fun i => if i = target then some x else none)⟩ := by
  rw [subtractAt?]
  simp

end DenseMatrix

namespace Work

variable [Scalar α]

def clearEntry (row col target : Int) : Work α Unit := do
  let x ← entry target col
  if Scalar.eq x 0 then return
  subtract target row 0 x

theorem clearAbove_eq (row col : Int) : (clearAbove row col : Work α Unit) = (do
    if (← rowCount) < row then failure
    forM (span 0 row).reverse (clearEntry row col)) := rfl

theorem outcome_subtract (s : System α r c k) (target row : Fin r) (x : α) :
    outcome (subtract (target : Nat) (row : Nat) 0 x) s.workspace =
      let multipliers := Vector.ofFn fun i => if i = target then some x else none
      let t : System α r c k :=
        ⟨s.left.subtractMultiples row 0 multipliers, s.right.subtractMultiples row 0 multipliers⟩
      (some (), t.workspace) := by
  rw [subtract, outcome_bind, outcome_changeLeft, System.workspace, DenseMatrix.subtractAt?_natCast]
  simp only [outcome_changeRight, DenseMatrix.subtractAt?_natCast]
  rfl

theorem outcome_clearEntry (s : System α r c k) (row target : Fin r) {col : Int} {j : Fin c}
    (named : wrapped? c col = some j) : outcome (clearEntry (row : Nat) col (target : Nat)) s.workspace =
      (some (), (s.clearIn row j [target]).workspace) := by
  have read : outcome (entry (target : Nat) col) s.workspace = (some (s.left.entry target j), s.workspace) := by
    rw [outcome_entry, DenseMatrix.entryAt?]
    simp [System.workspace, named]
  rw [clearEntry, outcome_bind_some read]
  by_cases zero : Scalar.eq (s.left.entry target j) 0 = true
  · rw [if_pos zero, s.clearIn_of_zero (by simpa using zero)]
    rfl
  · have nonzero : Scalar.eq (s.left.entry target j) 0 = false := Bool.eq_false_of_not_eq_true zero
    rw [if_neg zero, outcome_subtract, System.clearIn, Grid.multipliersIn_singleton _ _ nonzero]

theorem outcome_clearEntry_outside (s : System α r c k) {row col : Int} (target : Int)
    (outside : wrapped? r row = none ∨ wrapped? c col = none) :
    (outcome (clearEntry row col target) s.workspace).2 = s.workspace := by
  rw [clearEntry]
  cases found : s.workspace.left.entryAt? target col with
  | none =>
    rw [outcome_bind_none (by rw [outcome_entry, found])]
  | some x =>
    rw [outcome_bind_some (by rw [outcome_entry, found])]
    by_cases zero : Scalar.eq x 0 = true
    · rw [if_pos zero]
      rfl
    · have missing : wrapped? r row = none := by
        refine outside.resolve_right fun missing => ?_
        simp [DenseMatrix.entryAt?, System.workspace, missing] at found
      have stuck : s.workspace.left.subtractAt? target row 0 x = none := by
        simp [DenseMatrix.subtractAt?, System.workspace, missing]
      rw [if_neg zero, subtract, outcome_bind_none (by rw [outcome_changeLeft, stuck])]

theorem outcome_clearAbove_eq (s : System α r c k) (row col : Int) : outcome (clearAbove row col) s.workspace =
    if (r : Int) < row then (none, s.workspace)
    else outcome (forM (span 0 row).reverse (clearEntry row col)) s.workspace := by
  rw [clearAbove_eq, outcome_bind_some (outcome_rowCount _)]
  by_cases beyond : (r : Int) < row
  · rw [if_pos beyond]
    exact congrArg (outcome · s.workspace) (if_pos beyond)
  · rw [if_neg beyond]
    exact congrArg (outcome · s.workspace) (if_neg beyond)

/-- Clearing a column row by row ends as clearing it at once does. -/
theorem outcome_clearAbove (s : System α r c k) (row : Fin r) {col : Int} {j : Fin c}
    (named : wrapped? c col = some j) :
    outcome (clearAbove (row : Nat) col) s.workspace = (some (), (s.clearAbove row j).workspace) := by
  have other : row ∉ rowsAbove row := fun h => lt_irrefl row (mem_rowsAbove.1 h)
  rw [outcome_clearAbove_eq, if_neg (by omega), reverse_span_zero, List.forM_map,
    outcome_forM fun t target => outcome_clearEntry t row target named,
    System.foldl_clearIn s (nodup_rowsAbove row) other, System.clearIn_rowsAbove]

/-- Work that names no pivot leaves the table unchanged, whether it breaks off or finds nothing to clear. -/
theorem outcome_clearAbove_outside (s : System α r c k) {row col : Int}
    (outside : (∀ i : Fin r, row ≠ (i : Nat)) ∨ wrapped? c col = none) :
    (outcome (clearAbove row col) s.workspace).2 = s.workspace := by
  rw [outcome_clearAbove_eq]
  by_cases beyond : (r : Int) < row
  · rw [if_pos beyond]
  · rw [if_neg beyond]
    refine outcome_forM_unchanged fun target listed => outcome_clearEntry_outside s target ?_
    refine outside.imp_left fun unnamed => wrapped?_of_le ?_
    have inside : 0 ≤ target ∧ target < row := by
      simp [span] at listed
      omega
    by_contra below
    exact unnamed ⟨row.toNat, by omega⟩ (by simp; omega)

/-- So does clearing column after column. The run in place leaves out the first row, which has none above it. -/
theorem outcome_backSubstitute (s : System α n n k) :
    outcome backSubstitute s.workspace = (some (), s.backSubstitute.workspace) := by
  cases n with
  | zero => rfl
  | succ n =>
    have loop : outcome backSubstitute s.workspace =
        outcome (forM (span 1 ((n + 1 : Nat) : Int)).reverse fun row => clearAbove row row) s.workspace := rfl
    rw [loop, span_one_succ, ← List.map_reverse, List.forM_map,
      outcome_forM fun t (row : Fin (n + 1)) => outcome_clearAbove t row (wrapped?_natCast row),
      System.backSubstitute, List.finRange_succ, List.reverse_cons, List.foldl_append, List.foldl_cons, List.foldl_nil,
      System.clearAbove_first]

end Work

end Polyhedra
