/-!
# Switches of the command line

The switches that the command knows, in the order in which they are listed, with their spellings. A
switch stands alone or takes one value.
-/

namespace Polyhedra.CommandLine

inductive Switch where
  | help
  | constraints
  | bounds
  | objective
  | sense
  | workers
  | chunkSize
  | shardIndex
  | shardCount
  | limit
  | tolerance
  | pivotTolerance
  | verify
  | verifyDigits
  | crosscheck
  | output
  | verbose
  deriving DecidableEq, Repr

namespace Switch

/-- All switches, in the order in which they are listed. -/
def all : List Switch :=
  [help, constraints, bounds, objective, sense, workers, chunkSize, shardIndex, shardCount, limit,
    tolerance, pivotTolerance, verify, verifyDigits, crosscheck, output, verbose]

def letter? : Switch → Option Char
  | help => some 'h'
  | constraints => some 'A'
  | bounds => some 'b'
  | objective => some 'c'
  | _ => none

def word : Switch → String
  | help => "help"
  | constraints => "constraints"
  | bounds => "bounds"
  | objective => "objective"
  | sense => "sense"
  | workers => "workers"
  | chunkSize => "chunksize"
  | shardIndex => "shard-id"
  | shardCount => "num-shards"
  | limit => "max-partitions"
  | tolerance => "tolerance"
  | pivotTolerance => "pivot-tol"
  | verify => "verify"
  | verifyDigits => "verify-dps"
  | crosscheck => "crosscheck"
  | output => "output"
  | verbose => "verbose"

def takesValue : Switch → Bool
  | help | verify | crosscheck | verbose => false
  | _ => true

def isRequired : Switch → Bool
  | constraints | bounds | objective => true
  | _ => false

/-- The spellings of a switch: a dash and its letter, and two dashes and its word. -/
def spellings (s : Switch) : List String :=
  (s.letter?.toList.map fun c => String.ofList ['-', c]) ++ ["--" ++ s.word]

/-- A switch as messages name it. -/
def name (s : Switch) : String :=
  "/".intercalate s.spellings

def purpose : Switch → String
  | help => "show this list"
  | constraints => "constraint matrix, for example 1 0; 0 1"
  | bounds => "column of the bounds of the constraints, for example 3; 3"
  | objective => "column of the coefficients of the objective, for example 1; 1"
  | sense => "max (the default) or min"
  | workers => "number of workers"
  | chunkSize => "number of partitions that a worker takes at a time"
  | shardIndex => "index of the shard to evaluate, from zero on"
  | shardCount => "number of shards"
  | limit => "evaluate no more than this many partitions"
  | tolerance => "tolerance of the sign tests"
  | pivotTolerance => "tolerance below which a pivot counts as zero"
  | verify => "verify the feasible dictionaries in extended precision"
  | verifyDigits => "number of decimal digits of the verification"
  | crosscheck => "compare the optimum with that of a solver"
  | output => "file to which the listing is written"
  | verbose => "print a report"

end Switch

/-- Every spelling with its switch, in order. -/
def spelled : List (String × Switch) :=
  Switch.all.flatMap fun s => s.spellings.map fun spelling => (spelling, s)

/-- The switch with a spelling. -/
def switch? (spelling : String) : Option Switch :=
  spelled.lookup spelling

end Polyhedra.CommandLine
