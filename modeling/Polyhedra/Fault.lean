import Polyhedra.Capacity
import Polyhedra.Decimal.Reading
import Polyhedra.Text.Quoted

/-!
# Faults

Everything that can be wrong with a request, as a cause with its data. Faults of matrices and of
partitions also have a kind, a single word under which batches record them. A message that would write an
integer of too many digits cannot be given.
-/

namespace Polyhedra

open Polyhedra.Text

/-- Number of rows and number of columns. -/
abbrev Size := Nat × Nat

def Size.text (s : Size) : String :=
  tuple [toString s.1, toString s.2]

def Size.integers (s : Size) : List Int :=
  [(s.1 : Int), (s.2 : Int)]

/-- Operations that combine two matrices of fitting sizes. -/
inductive BinaryOperation where
  | sum
  | difference
  | product
  | sideBySide
  | stacked
  deriving DecidableEq, Repr

/-- Loops that need a pivot in every column. -/
inductive Reduction where
  | triangulation
  | decomposition
  | solving
  deriving DecidableEq, Repr

/-- Questions that only a square matrix answers. -/
inductive SquareUse where
  | solving
  | inverse
  | determinant
  deriving DecidableEq, Repr

/-- The columns that go with a constraint matrix. -/
inductive Companion where
  | bounds
  | objective
  deriving DecidableEq, Repr

/-- What can be wrong with a matrix or with an operation on matrices. -/
inductive MatrixFault where
  | negativeSize (rows cols : Int)
  | notPlane (dimensions : Nat)
  | ragged (expected got row : Nat)
  | excess (cause : Excess)
  | notAPair (shown : String)
  | notANumber (shown : String)
  | entryOutside (row col : String) (size : Size)
  | columnOutside (index : Int) (size : Size)
  | rowOutside (index : Int) (size : Size)
  | unfit (operation : BinaryOperation) (left right : Size)
  | noPivot (reduction : Reduction) (column : Nat)
  | singular
  | notSquare (use : SquareUse) (size : Size)
  | rightSideRows (matrix rightSide : Size)
  | notNumeric (row : String)
  | noRows (literal : String)
  | companion (which : Companion) (ofProblem : Bool) (matrix got : Size)
  deriving DecidableEq, Repr

/-- The word under which a fault is recorded. -/
inductive FaultKind where
  | dimensionMismatch
  | outOfRange
  | degenerate
  | singular
  | notSquare
  | malformedLiteral
  | invalidPartitionSize
  | invalidPartitionCoverage
  deriving DecidableEq, Repr

def FaultKind.name : FaultKind → String
  | .dimensionMismatch => "DimensionMismatch"
  | .outOfRange => "OutOfRange"
  | .degenerate => "Degenerate"
  | .singular => "Singular"
  | .notSquare => "NotSquare"
  | .malformedLiteral => "MalformedLiteral"
  | .invalidPartitionSize => "InvalidPartitionSize"
  | .invalidPartitionCoverage => "InvalidPartitionCoverage"

namespace MatrixFault

def kind : MatrixFault → FaultKind
  | negativeSize .. | notPlane .. | excess .. | unfit .. | rightSideRows .. | companion .. =>
    .dimensionMismatch
  | ragged .. | notNumeric .. | noRows .. => .malformedLiteral
  | notAPair .. | notANumber .. | entryOutside .. | columnOutside .. | rowOutside .. => .outOfRange
  | noPivot .. => .degenerate
  | singular => .singular
  | notSquare .. => .notSquare

/-- How a failed operation on two matrices is told. -/
def unfitMessage : BinaryOperation → String
  | .sum => "Matrices cannot be added. "
  | .difference => "Matrices cannot be subtracted. "
  | .product => "Matrices cannot be multiplied. "
  | .sideBySide => "Cannot compose matrices with different row sizes horizontally. "
  | .stacked => "Cannot compose matrices with different column sizes vertically. "

/-- How a missing pivot is told. -/
def noPivotMessage (column : Nat) : Reduction → String
  | .triangulation => "triangulation (zero pivot at column " ++ toString column ++ ")."
  | .decomposition => "decomposition (no nonzero pivot in column " ++ toString column ++ ")."
  | .solving => "solving (no nonzero pivot in column " ++ toString column ++ ")."

/-- How the wrong shape of a companion column is told. -/
def companionMessage (which : Companion) (ofProblem : Bool) (matrix got : Size) : String :=
  let (name, rows) := match which with
    | .bounds => ("b", matrix.1)
    | .objective => ("c", matrix.2)
  name ++ (if ofProblem then " must be a (" else " must be (") ++ toString rows ++
    (if ofProblem then ", 1) column for A of size " else ", 1) for A of size ") ++
    Size.text matrix ++ ", got " ++ Size.text got

def message : MatrixFault → String
  | negativeSize rows cols =>
    "Matrix size must be non-negative, got " ++ tuple [toString rows, toString cols]
  | notPlane dimensions => "Expected a 2-D array, got " ++ toString dimensions ++ " dimension(s)"
  | ragged expected got row =>
    "Matrix rows cannot be jagged. Expected: " ++ toString expected ++ " Got: " ++ toString got ++
      " (row " ++ toString row ++ ")"
  | excess .uncountable => "Matrix is too large to be counted"
  | excess .unstorable => "Matrix is too large to be stored"
  | notAPair shown => "Matrix index must be a (row, col) pair, got " ++ shown
  | notANumber shown => "Matrix index must be made of numbers, got " ++ shown
  | entryOutside row col size =>
    "Index (" ++ row ++ ", " ++ col ++ ") out of range for matrix of size " ++ Size.text size
  | columnOutside index size =>
    "Column index " ++ toString index ++ " out of range for matrix of size " ++ Size.text size
  | rowOutside index size =>
    "Row index " ++ toString index ++ " out of range for matrix of size " ++ Size.text size
  | unfit operation left right =>
    unfitMessage operation ++ Size.text left ++ " vs " ++ Size.text right
  | noPivot reduction column =>
    "Matrix state is degenerate, cannot finish " ++ noPivotMessage column reduction
  | singular => "Unable to invert a singular matrix."
  | notSquare .solving size =>
    "Solver requires a square coefficient matrix, got " ++ Size.text size
  | notSquare .inverse size => "Unable to invert a non-square matrix " ++ Size.text size ++ "."
  | notSquare .determinant _ => "Non-square matrices do not have determinants."
  | rightSideRows matrix rightSide =>
    "Solver requires identical number of rows between equals and constraints. " ++
      Size.text matrix ++ " vs " ++ Size.text rightSide
  | notNumeric row => "Row '" ++ row ++ "' contains a non-numeric value"
  | noRows literal => "Matrix literal " ++ quoted literal ++ " has no rows"
  | companion which ofProblem matrix got => companionMessage which ofProblem matrix got

/-- The integers that are written in the message. -/
def integers : MatrixFault → List Int
  | negativeSize rows cols => [rows, cols]
  | notPlane dimensions => [(dimensions : Int)]
  | ragged expected got row => [(expected : Int), (got : Int), (row : Int)]
  | entryOutside _ _ size | notSquare .solving size | notSquare .inverse size => size.integers
  | columnOutside index size | rowOutside index size => index :: size.integers
  | unfit _ left right | rightSideRows left right => left.integers ++ right.integers
  | noPivot _ column => [(column : Int)]
  | companion _ _ matrix got => matrix.integers ++ got.integers
  | _ => []

end MatrixFault

/-- What can be wrong with a split of the indices into basic and non-basic ones. -/
inductive PartitionFault where
  | basicCount (expected : Int) (got : Nat)
  | nonBasicCount (expected : Int) (got : Nat)
  | missing (index : Int)
  | duplicate (index : Int)
  | outside (index count : Int)
  deriving DecidableEq, Repr

namespace PartitionFault

def kind : PartitionFault → FaultKind
  | basicCount .. | nonBasicCount .. => .invalidPartitionSize
  | missing .. | duplicate .. | outside .. => .invalidPartitionCoverage

def message : PartitionFault → String
  | basicCount expected got =>
    "Error. B partition expected " ++ toString expected ++ " elements but got " ++ toString got
  | nonBasicCount expected got =>
    "Error. N partition expected " ++ toString expected ++ " elements but got " ++ toString got
  | missing index => "Error. Missing partition element " ++ toString index
  | duplicate index => "Error. Duplicate partition element " ++ toString index
  | outside index count =>
    "Error. Partition element " ++ toString index ++ " outside 0.." ++ toString (count - 1)

/-- The integers that are written in the message. -/
def integers : PartitionFault → List Int
  | basicCount expected got | nonBasicCount expected got => [expected, (got : Int)]
  | missing index | duplicate index => [index]
  | outside index count => [index, count - 1]

end PartitionFault

/-- What can be wrong with the numbers and words that set up a problem or a run. -/
inductive RequestFault where
  | negativeCounts (numVars numConstraints : Int)
  | excess (cause : Excess)
  | rankOutside (rank : Int) (total : Nat)
  | shardCount (count : Int)
  | shardIndex (index count : Int)
  | unknownSense (shown : String)
  | workers (count : Int)
  | chunkSize (size : Int)
  | loneShardSetting
  | partitionLimit (limit : Int)
  | uncountableLimit (limit : Nat)
  deriving DecidableEq, Repr

namespace RequestFault

def message : RequestFault → String
  | negativeCounts numVars numConstraints =>
    "Sizes must be non-negative, got n=" ++ toString numVars ++ ", m=" ++ toString numConstraints
  | excess .uncountable => "Sizes are too large to be counted"
  | excess .unstorable => "Sizes are too large to be stored"
  | rankOutside rank total =>
    "Rank " ++ toString rank ++ " out of range [0, " ++ toString ((total : Int) - 1) ++ "]"
  | shardCount count => "num_shards must be >= 1, got " ++ toString count
  | shardIndex index count =>
    "shard_id must be in [0, " ++ toString (count - 1) ++ "], got " ++ toString index
  | unknownSense shown => "sense must be one of ('max', 'min'), got " ++ shown
  | workers count => "workers must be >= 1, got " ++ toString count
  | chunkSize size => "chunksize must be >= 1, got " ++ toString size
  | loneShardSetting => "shard_id and num_shards must be given together"
  | partitionLimit limit => "max_partitions must be >= 0, got " ++ toString limit
  | uncountableLimit limit => "max_partitions is too large to be counted up to, got " ++ toString limit

/-- The integers that are written in the message. -/
def integers : RequestFault → List Int
  | negativeCounts numVars numConstraints => [numVars, numConstraints]
  | rankOutside rank total => [rank, (total : Int) - 1]
  | shardIndex index count => [count - 1, index]
  | shardCount n | workers n | chunkSize n | partitionLimit n => [n]
  | uncountableLimit limit => [(limit : Int)]
  | excess _ | unknownSense _ | loneShardSetting => []

end RequestFault

inductive Fault where
  | matrix (fault : MatrixFault)
  | partition (fault : PartitionFault)
  | request (fault : RequestFault)
  deriving DecidableEq, Repr

namespace Fault

/-- The kind of a recorded fault; requests have none. -/
def kind? : Fault → Option FaultKind
  | matrix fault => some fault.kind
  | partition fault => some fault.kind
  | request _ => none

def message : Fault → String
  | matrix fault => fault.message
  | partition fault => fault.message
  | request fault => fault.message

def integers : Fault → List Int
  | matrix fault => fault.integers
  | partition fault => fault.integers
  | request fault => fault.integers

/-- The message, if none of its integers has too many digits. -/
def message? (fault : Fault) : Option String :=
  if fault.integers.all Decimal.isWritable then some fault.message else none

end Fault

end Polyhedra
