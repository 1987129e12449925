import Polyhedra.Listing.Entry

/-!
# Summary of a listing

How many entries have each flag, each status and each message. Texts are listed in the order in which
they first occur; in the written summary the more frequent messages come first.
-/

namespace Polyhedra.Listing

variable {α : Type}

def countOne (text : String) : List (String × Nat) → List (String × Nat)
  | [] => [(text, 1)]
  | (t, k) :: rest => if t = text then (t, k + 1) :: rest else (t, k) :: countOne text rest

/-- How often every text occurs, in the order of first occurrence. -/
def tally (texts : List String) : List (String × Nat) :=
  texts.foldl (fun counts text => countOne text counts) []

structure Summary where
  total : Nat
  valid : Nat
  basic : Nat
  feasible : Nat
  optimal : Nat
  unbounded : Nat
  statuses : List (String × Nat)
  messages : List (String × Nat)

def summary (entries : List (Entry α)) : Summary where
  total := entries.length
  valid := entries.countP Entry.isValid
  basic := entries.countP Entry.isBasic
  feasible := entries.countP Entry.isFeasible
  optimal := entries.countP Entry.isOptimal
  unbounded := entries.countP Entry.isUnbounded
  statuses := tally (entries.map Entry.status)
  messages := tally (entries.map Entry.message)

/-- Put a counted text behind those that occur at least as often. -/
def insertByCount (item : String × Nat) : List (String × Nat) → List (String × Nat)
  | [] => [item]
  | other :: rest =>
    if item.2 ≤ other.2 then other :: insertByCount item rest else item :: other :: rest

/-- Counted texts with the most frequent first; texts of one count keep their order. -/
def byCount (items : List (String × Nat)) : List (String × Nat) :=
  items.foldl (fun sorted item => insertByCount item sorted) []

/-- A number at the right end of a field of six characters. -/
def countField (n : Nat) : String :=
  let digits := toString n
  String.ofList (List.replicate (6 - digits.length) ' ') ++ digits

def Summary.lines (s : Summary) : List String :=
  ("Partitions evaluated: " ++ toString s.total) ::
    ("  valid=" ++ toString s.valid ++ " basic=" ++ toString s.basic ++ " feasible=" ++
      toString s.feasible ++ " optimal=" ++ toString s.optimal ++ " unbounded=" ++
      toString s.unbounded) ::
    (byCount s.messages).map fun (message, count) => "  " ++ countField count ++ "  " ++ message

def Summary.text (s : Summary) : String :=
  "\n".intercalate s.lines

end Polyhedra.Listing
