import Polyhedra.Scalar

/-!
# Grids

Rectangular tables whose numbers of rows and columns are part of the type, so that operations on fitting
grids need no checks. A grid is made with `build` and read with `entry`; every operation is stated through
these two.
-/

namespace Polyhedra

@[simp] theorem get_ofFn {α : Type} {n : Nat} (f : Fin n → α) (i : Fin n) : (Vector.ofFn f).get i = f i := by
  show (Vector.ofFn f)[i.val] = f i
  simp

/-- A table with `r` rows and `c` columns. -/
structure Grid (α : Type) (r c : Nat) where
  cells : Vector (Vector α c) r
  deriving DecidableEq

namespace Grid

variable {α β : Type} {r r' c c' k n : Nat}

def entry (g : Grid α r c) (i : Fin r) (j : Fin c) : α :=
  (g.cells.get i).get j

def build (f : Fin r → Fin c → α) : Grid α r c :=
  ⟨Vector.ofFn fun i => Vector.ofFn (f i)⟩

@[simp] theorem entry_build (f : Fin r → Fin c → α) (i : Fin r) (j : Fin c) : (build f).entry i j = f i j := by
  simp [entry, build]

@[ext] theorem ext {g h : Grid α r c} (same : ∀ i j, g.entry i j = h.entry i j) : g = h := by
  obtain ⟨g⟩ := g
  obtain ⟨h⟩ := h
  congr 1
  apply Vector.ext
  intro i hi
  apply Vector.ext
  intro j hj
  exact same ⟨i, hi⟩ ⟨j, hj⟩

def toLists (g : Grid α r c) : List (List α) :=
  (List.finRange r).map fun i => (List.finRange c).map fun j => g.entry i j

/-- The grid with the given rows; entries that are not there take a default. -/
def ofLists (default : α) (rows : List (List α)) : Grid α r c :=
  build fun i j => (rows.getD i []).getD j default

def map (f : α → β) (g : Grid α r c) : Grid β r c :=
  build fun i j => f (g.entry i j)

@[simp] theorem entry_map (f : α → β) (g : Grid α r c) (i : Fin r) (j : Fin c) :
    (g.map f).entry i j = f (g.entry i j) := by
  simp [map]

/-- Combine entries at the same place. -/
def zipWith (f : α → α → α) (g h : Grid α r c) : Grid α r c :=
  build fun i j => f (g.entry i j) (h.entry i j)

@[simp] theorem entry_zipWith (f : α → α → α) (g h : Grid α r c) (i : Fin r) (j : Fin c) :
    (zipWith f g h).entry i j = f (g.entry i j) (h.entry i j) := by
  simp [zipWith]

def transpose (g : Grid α r c) : Grid α c r :=
  build fun i j => g.entry j i

@[simp] theorem entry_transpose (g : Grid α r c) (i : Fin c) (j : Fin r) :
    g.transpose.entry i j = g.entry j i := by
  simp [transpose]

/-- Two grids with equally many rows, the second to the right of the first. -/
def beside (g : Grid α r c) (h : Grid α r k) : Grid α r (c + k) :=
  build fun i j => Fin.addCases (g.entry i) (h.entry i) j

@[simp] theorem entry_beside_left (g : Grid α r c) (h : Grid α r k) (i : Fin r) (j : Fin c) :
    (g.beside h).entry i (j.castAdd k) = g.entry i j := by
  simp [beside]

@[simp] theorem entry_beside_right (g : Grid α r c) (h : Grid α r k) (i : Fin r) (j : Fin k) :
    (g.beside h).entry i (j.natAdd c) = h.entry i j := by
  simp [beside]

/-- Two grids with equally many columns, the second below the first. -/
def above (g : Grid α r c) (h : Grid α k c) : Grid α (r + k) c :=
  build fun i j => Fin.addCases (fun i => g.entry i j) (fun i => h.entry i j) i

@[simp] theorem entry_above_upper (g : Grid α r c) (h : Grid α k c) (i : Fin r) (j : Fin c) :
    (g.above h).entry (i.castAdd k) j = g.entry i j := by
  simp [above]

@[simp] theorem entry_above_lower (g : Grid α r c) (h : Grid α k c) (i : Fin k) (j : Fin c) :
    (g.above h).entry (i.natAdd r) j = h.entry i j := by
  simp [above]

/-- The columns that a list names, in its order. -/
def columns (g : Grid α r c) (picked : List (Fin c)) : Grid α r picked.length :=
  build fun i j => g.entry i (picked.get j)

@[simp] theorem entry_columns (g : Grid α r c) (picked : List (Fin c)) (i : Fin r)
    (j : Fin picked.length) : (g.columns picked).entry i j = g.entry i (picked.get j) := by
  simp [columns]

/-- The rows that a list names, in its order. -/
def rows (g : Grid α r c) (picked : List (Fin r)) : Grid α picked.length c :=
  build fun i j => g.entry (picked.get i) j

@[simp] theorem entry_rows (g : Grid α r c) (picked : List (Fin r)) (i : Fin picked.length)
    (j : Fin c) : (g.rows picked).entry i j = g.entry (picked.get i) j := by
  simp [rows]

/-- Whether the entries of two grids are related at every place. -/
def agrees (related : α → α → Bool) (g h : Grid α r c) : Bool :=
  (List.finRange r).all fun i => (List.finRange c).all fun j => related (g.entry i j) (h.entry i j)

/-- The same grid under equal sizes. -/
def resize (hr : r = r') (hc : c = c') (g : Grid α r c) : Grid α r' c' :=
  build fun i j => g.entry (i.cast hr.symm) (j.cast hc.symm)

@[simp] theorem resize_self (g : Grid α r c) : g.resize rfl rfl = g := by
  ext i j
  simp [resize]

/-- The same grid under an equal number of rows. -/
def resizeRows (hr : r = r') (g : Grid α r c) : Grid α r' c :=
  g.resize hr rfl

/-- The same grid under an equal number of columns. -/
def resizeCols (hc : c = c') (g : Grid α r c) : Grid α r c' :=
  g.resize rfl hc

def put (g : Grid α r c) (i : Fin r) (j : Fin c) (x : α) : Grid α r c :=
  build fun a b => if a = i ∧ b = j then x else g.entry a b

@[simp] theorem entry_put (g : Grid α r c) (i a : Fin r) (j b : Fin c) (x : α) :
    (g.put i j x).entry a b = if a = i ∧ b = j then x else g.entry a b := by
  simp [put]

def swapRows (g : Grid α r c) (i j : Fin r) : Grid α r c :=
  build fun a b => g.entry (if a = i then j else if a = j then i else a) b

@[simp] theorem entry_swapRows (g : Grid α r c) (i j a : Fin r) (b : Fin c) :
    (g.swapRows i j).entry a b = g.entry (if a = i then j else if a = j then i else a) b := by
  simp [swapRows]

def constant (x : α) : Grid α r c :=
  build fun _ _ => x

@[simp] theorem entry_constant (x : α) (i : Fin r) (j : Fin c) :
    (constant x : Grid α r c).entry i j = x := by
  simp [constant]

section Arithmetic

variable [Scalar α]

def identity : Grid α n n :=
  build fun i j => if i = j then 1 else 0

@[simp] theorem entry_identity (i j : Fin n) :
    (identity : Grid α n n).entry i j = if i = j then 1 else 0 := by
  simp [identity]

def scale (factor : α) (g : Grid α r c) : Grid α r c :=
  g.map (· * factor)

@[simp] theorem entry_scale (factor : α) (g : Grid α r c) (i : Fin r) (j : Fin c) :
    (g.scale factor).entry i j = g.entry i j * factor := by
  simp [scale]

/-- The product, each entry summed from left to right. -/
def mul (g : Grid α r k) (h : Grid α k c) : Grid α r c :=
  build fun i j => Scalar.sum ((List.finRange k).map fun l => g.entry i l * h.entry l j)

@[simp] theorem entry_mul (g : Grid α r k) (h : Grid α k c) (i : Fin r) (j : Fin c) :
    (g.mul h).entry i j =
      Scalar.sum ((List.finRange k).map fun l => g.entry i l * h.entry l j) := by
  simp [mul]

/-- Divide a row by a number, from a column on. -/
def divideRow (g : Grid α r c) (row : Fin r) (start : Nat) (divisor : α) : Grid α r c :=
  build fun i j => if i = row ∧ start ≤ j then g.entry i j / divisor else g.entry i j

@[simp] theorem entry_divideRow (g : Grid α r c) (row i : Fin r) (start : Nat) (divisor : α)
    (j : Fin c) : (g.divideRow row start divisor).entry i j =
      if i = row ∧ start ≤ j then g.entry i j / divisor else g.entry i j := by
  simp [divideRow]

/-- Take a multiple of a row from other rows, from a column on. A row without a multiplier is left
alone. -/
def subtractMultiples (g : Grid α r c) (row : Fin r) (start : Nat) (multipliers : Vector (Option α) r) :
    Grid α r c :=
  build fun i j =>
    match multipliers.get i with
    | some m => if start ≤ j then g.entry i j - m * g.entry row j else g.entry i j
    | none => g.entry i j

@[simp] theorem entry_subtractMultiples (g : Grid α r c) (row i : Fin r) (start : Nat)
    (multipliers : Vector (Option α) r) (j : Fin c) :
    (g.subtractMultiples row start multipliers).entry i j =
      match multipliers.get i with
      | some m => if start ≤ j then g.entry i j - m * g.entry row j else g.entry i j
      | none => g.entry i j := by
  simp only [subtractMultiples, entry_build]

end Arithmetic

end Grid

end Polyhedra
