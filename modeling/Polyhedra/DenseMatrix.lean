import Polyhedra.Ascending
import Polyhedra.Decimal.Binary64
import Polyhedra.Fault
import Polyhedra.Grid
import Polyhedra.Numeral

/-!
# Matrices of any size

A matrix whose size is part of the value. Operations on two matrices check that the sizes fit, and name
the two sizes when they do not. Selected rows and columns come out in ascending order of their indices.
-/

namespace Polyhedra

open Polyhedra.Text

/-- A grid together with its size. -/
structure DenseMatrix (α : Type) where
  rows : Nat
  cols : Nat
  entries : Grid α rows cols

/-- Numbers nested in lists to any depth. -/
inductive Nested (α : Type) where
  | value (x : α)
  | list (items : List (Nested α))

namespace Nested

variable {α : Type}

/-- The extents of a nesting that is a full box; `none` when it is ragged. -/
def extents? : Nested α → Option (List Nat)
  | value _ => some []
  | list items =>
    match items.map fun item => extents? item with
    | [] => some [0]
    | first :: others =>
      if others.all (· == first) then first.map (items.length :: ·) else none

/-- How deep a box may be nested. -/
def deepest : Nat := 64

/-- The extents of a box that is not nested too deep. -/
def shape? (a : Nested α) : Option (List Nat) :=
  a.extents?.filter fun extents => extents.length ≤ deepest

/-- The numbers in reading order. -/
def flatten : Nested α → List α
  | value x => [x]
  | list items => items.flatMap fun item => flatten item

/-- The items of a list; a lone number has none. -/
def items : Nested α → List (Nested α)
  | value _ => []
  | list items => items

end Nested

/-- What is given for an index: an integer, a number that may have a fraction, a truth value that counts as
zero or one, or something that is no number. -/
inductive IndexValue where
  | whole (n : Int)
  | fractional (x : Float)
  | truth (b : Bool)
  | other (shown : String)

namespace IndexValue

/-- The position of an integer below a limit. -/
def wholePosition? (limit : Nat) (n : Int) : Option (Fin limit) :=
  if h : 0 ≤ n ∧ n.toNat < limit then some ⟨n.toNat, h.2⟩ else none

/-- The position that a number below a limit names, dropping its fraction. -/
def fractionalPosition? (limit : Nat) (x : Float) : Option (Fin limit) :=
  match Decimal.Binary64.decode x with
  | .finite negative m e =>
    let q := Decimal.Binary64.quotient m e
    if h : (negative = false ∨ m = 0) ∧ q.1 / q.2 < limit then some ⟨q.1 / q.2, h.2⟩ else none
  | _ => none

/-- The position below a limit that an index names, if there is one. -/
def position? (limit : Nat) : IndexValue → Except MatrixFault (Option (Fin limit))
  | whole n => .ok (wholePosition? limit n)
  | fractional x => .ok (fractionalPosition? limit x)
  | truth b => .ok (wholePosition? limit (if b then 1 else 0))
  | other shown => .error (.notANumber shown)

def text : IndexValue → String
  | whole n => toString n
  | fractional x => Decimal.shortestText x
  | truth b => if b then "True" else "False"
  | other shown => shown

end IndexValue

/-- What is given to name an entry: a pair of indices, or something else. -/
inductive EntryKey where
  | pair (row col : IndexValue)
  | other (shown : String)

namespace DenseMatrix

variable {α : Type}

def size (a : DenseMatrix α) : Size := (a.rows, a.cols)

def toLists (a : DenseMatrix α) : List (List α) := a.entries.toLists

def isSquare (a : DenseMatrix α) : Bool := a.rows = a.cols

/-- The matrix with the given rows, which must all have the length of the first. -/
def ofRows? [Zero α] (rows : List (List α)) : Except MatrixFault (DenseMatrix α) :=
  match rows with
  | [] => .ok ⟨0, 0, .ofLists 0 []⟩
  | first :: _ =>
    match rows.findIdx? fun row => row.length != first.length with
    | some i => .error (.ragged first.length (rows.getD i []).length i)
    | none => .ok ⟨rows.length, first.length, .ofLists 0 rows⟩

def column [Zero α] (values : List α) : DenseMatrix α :=
  ⟨values.length, 1, .build fun i _ => values.getD i 0⟩

/-- The matrix of a nesting of depth two. -/
def ofNested? [Zero α] (a : Nested α) (extents : List Nat) : Except MatrixFault (DenseMatrix α) :=
  match extents with
  | [r, c] => .ok ⟨r, c, .ofLists 0 (a.items.map Nested.flatten)⟩
  | _ => .error (.notPlane extents.length)

/-- The matrix of a nesting of depth at most two; a lone number and a flat list are a single row. -/
def ofNestedRow? [Zero α] (a : Nested α) (extents : List Nat) : Except MatrixFault (DenseMatrix α) :=
  match extents with
  | [] => .ok ⟨1, 1, .ofLists 0 [a.flatten]⟩
  | [c] => .ok ⟨1, c, .ofLists 0 [a.flatten]⟩
  | _ => ofNested? a extents

/-- The place that a key names. The column is looked at only if the row is inside. -/
def place? (a : DenseMatrix α) : EntryKey → Except MatrixFault (Fin a.rows × Fin a.cols)
  | .other shown => .error (.notAPair shown)
  | .pair row col =>
    match row.position? a.rows with
    | .error fault => .error fault
    | .ok none => .error (.entryOutside row.text col.text a.size)
    | .ok (some i) =>
      match col.position? a.cols with
      | .error fault => .error fault
      | .ok none => .error (.entryOutside row.text col.text a.size)
      | .ok (some j) => .ok (i, j)

def get? (a : DenseMatrix α) (key : EntryKey) : Except MatrixFault α :=
  (a.place? key).map fun p => a.entries.entry p.1 p.2

def set? (a : DenseMatrix α) (key : EntryKey) (x : α) : Except MatrixFault (DenseMatrix α) :=
  (a.place? key).map fun p => ⟨a.rows, a.cols, a.entries.put p.1 p.2 x⟩

def transpose (a : DenseMatrix α) : DenseMatrix α :=
  ⟨a.cols, a.rows, a.entries.transpose⟩

def combine? (how : BinaryOperation) (f : α → α → α) (a b : DenseMatrix α) :
    Except MatrixFault (DenseMatrix α) :=
  if h : b.rows = a.rows ∧ b.cols = a.cols then
    .ok ⟨a.rows, a.cols, a.entries.zipWith f (b.entries.resize h.1 h.2)⟩
  else .error (.unfit how a.size b.size)

/-- `b` attached to the right of `a`. -/
def beside? (a b : DenseMatrix α) : Except MatrixFault (DenseMatrix α) :=
  if h : b.rows = a.rows then
    .ok ⟨a.rows, a.cols + b.cols, a.entries.beside (b.entries.resizeRows h)⟩
  else .error (.unfit .sideBySide a.size b.size)

/-- `b` attached below `a`. -/
def above? (a b : DenseMatrix α) : Except MatrixFault (DenseMatrix α) :=
  if h : b.cols = a.cols then
    .ok ⟨a.rows + b.rows, a.cols, a.entries.above (b.entries.resizeCols h)⟩
  else .error (.unfit .stacked a.size b.size)

/-- The positions below a limit that indices name, or the first index that names none. -/
def positions? (limit : Nat) : List Int → Except Int (List (Fin limit))
  | [] => .ok []
  | i :: rest =>
    if h : 0 ≤ i ∧ i.toNat < limit then
      (positions? limit rest).map (⟨i.toNat, h.2⟩ :: ·)
    else .error i

/-- The columns with the given indices, in ascending order. -/
def selectColumns? (a : DenseMatrix α) (indices : List Int) : Except MatrixFault (DenseMatrix α) :=
  match positions? a.cols (ascending indices) with
  | .error i => .error (.columnOutside i a.size)
  | .ok picked => .ok ⟨a.rows, picked.length, a.entries.columns picked⟩

/-- The rows with the given indices, in ascending order. -/
def selectRows? (a : DenseMatrix α) (indices : List Int) : Except MatrixFault (DenseMatrix α) :=
  match positions? a.rows (ascending indices) with
  | .error i => .error (.rowOutside i a.size)
  | .ok picked => .ok ⟨picked.length, a.cols, a.entries.rows picked⟩

section Arithmetic

variable [Scalar α]

/-- Every entry the same; a size that is negative or too large is refused. -/
def constant? (rows cols : Int) (x : α) : Except MatrixFault (DenseMatrix α) :=
  if rows < 0 ∨ cols < 0 then .error (.negativeSize rows cols)
  else
    match tableExcess? rows.toNat cols.toNat with
    | some cause => .error (.excess cause)
    | none => .ok ⟨rows.toNat, cols.toNat, .constant x⟩

def identity (n : Nat) : DenseMatrix α := ⟨n, n, .identity⟩

/-- The square matrix with ones on the diagonal; a size that is negative or too large is refused. -/
def identity? (n : Int) : Except MatrixFault (DenseMatrix α) :=
  if n < 0 then .error (.negativeSize n n)
  else
    match tableExcess? n.toNat n.toNat with
    | some cause => .error (.excess cause)
    | none => .ok (identity n.toNat)

def add? (a b : DenseMatrix α) : Except MatrixFault (DenseMatrix α) :=
  combine? .sum (· + ·) a b

def subtract? (a b : DenseMatrix α) : Except MatrixFault (DenseMatrix α) :=
  combine? .difference (· - ·) a b

def multiply? (a b : DenseMatrix α) : Except MatrixFault (DenseMatrix α) :=
  if h : b.rows = a.cols then .ok ⟨a.rows, b.cols, a.entries.mul (b.entries.resizeRows h)⟩
  else .error (.unfit .product a.size b.size)

def scale (factor : α) (a : DenseMatrix α) : DenseMatrix α :=
  ⟨a.rows, a.cols, a.entries.scale factor⟩

/-- Same size, and entries of equal value at every place. -/
def equals (a b : DenseMatrix α) : Bool :=
  if h : b.rows = a.rows ∧ b.cols = a.cols then
    a.entries.agrees Scalar.eq (b.entries.resize h.1 h.2)
  else false

/-- Whether `x` is within a tolerance of the finite value `y`, or equal to it. -/
def isClose (tolerance x y : α) : Bool :=
  (Scalar.le (Scalar.abs (x - y)) tolerance && Scalar.eq (y - y) 0) || Scalar.eq x y

/-- Same size, and entries within a tolerance at every place. -/
def allClose (tolerance : α) (a b : DenseMatrix α) : Bool :=
  if h : b.rows = a.rows ∧ b.cols = a.cols then
    a.entries.agrees (isClose tolerance) (b.entries.resize h.1 h.2)
  else false

end Arithmetic

section Text

variable [Numeral α]

/-- The literal of a matrix: rows joined by semicolons, entries by blanks. -/
def literal (a : DenseMatrix α) : String :=
  joined "; " (a.toLists.map fun row => joined " " (row.map Numeral.text))

/-- The size and the literal, as shown in diagnostics. -/
def shown (a : DenseMatrix α) : String :=
  "Matrix(" ++ toString a.rows ++ "," ++ toString a.cols ++ "): " ++ a.literal

end Text

end DenseMatrix

end Polyhedra
