import Polyhedra.Listing.Csv
import Polyhedra.Listing.Entry

/-!
# Listings as tables

A listing is written as a table with a header and one record for each entry, and read back by the names
in the header. Indices and coordinates are joined by blanks, flags are written as one and zero, and an
objective value that is not there is an empty field. The coordinates of an entry without a basis are not
written.
-/

namespace Polyhedra

open Polyhedra.Text

/-- What is read back of an entry. Status and message are missing if the record is too short. -/
structure Record (α : Type) where
  basic : List Int
  nonBasic : List Int
  status : Option String
  isValid : Bool
  isBasic : Bool
  isFeasible : Bool
  isOptimal : Bool
  isUnbounded : Bool
  zeta : Option α
  point : List α
  message : Option String

/-- Why a table cannot be read: a column is not there, a record has no field for it, a field is no number,
or a field is too long. -/
inductive RecordFault where
  | noColumn (name : String)
  | noField (name : String)
  | badNumber (text : String)
  | longField
  deriving DecidableEq, Repr

/-- How long a field and how many digits an integer in it may be. -/
structure ReadingLimits where
  fieldLength : Nat
  integerDigits : Nat

/-- The limits within which tables are usually read. -/
def ReadingLimits.usual : ReadingLimits := ⟨131072, Decimal.usualDigits⟩

namespace Listing

def columnNames : List String :=
  ["basic", "non_basic", "status", "is_valid", "is_basic", "is_feasible", "is_optimal",
    "is_unbounded", "zeta", "point", "message"]

def flagField (b : Bool) : String := if b then "1" else "0"

variable {α : Type}

def fields [Numeral α] (e : Entry α) : List String :=
  [joined " " (e.basic.map toString), joined " " (e.nonBasic.map toString), e.status,
    flagField e.isValid, flagField e.isBasic, flagField e.isFeasible, flagField e.isOptimal,
    flagField e.isUnbounded,
    match e.zeta with
    | some zeta => Numeral.text zeta
    | none => "",
    if e.isBasic then joined " " (e.point.map Numeral.text) else "", e.message]

def table [Numeral α] (entries : List (Entry α)) : String :=
  String.join (Csv.record columnNames :: entries.map fun e => Csv.record (fields e))

/-- The last place of a name in a header. -/
def columnOf (header : List String) (name : String) : Option Nat :=
  (header.zipIdx.reverse.find? fun column => column.1 = name).map Prod.snd

/-- The field in a column of a record; the inner answer is nothing if the record is too short. -/
def cell? (header row : List String) (name : String) : Except RecordFault (Option String) :=
  match columnOf header name with
  | none => .error (.noColumn name)
  | some place => .ok row[place]?

/-- A field that must be there. -/
def text? (header row : List String) (name : String) : Except RecordFault String :=
  match cell? header row name with
  | .error fault => .error fault
  | .ok none => .error (.noField name)
  | .ok (some text) => .ok text

/-- The values that the words of a field write. -/
def values? {β : Type} (read? : List Char → Option β) (text : String) : Except RecordFault (List β) :=
  (words text.toList).mapM fun word =>
    match read? word with
    | some x => .ok x
    | none => .error (.badNumber (String.ofList word))

/-- A flag; only a one sets it. -/
def flag? (header row : List String) (name : String) : Except RecordFault Bool :=
  (cell? header row name).map fun text => text == some "1"

/-- A number that may be missing or empty. -/
def number? [Numeral α] (header row : List String) (name : String) : Except RecordFault (Option α) :=
  match cell? header row name with
  | .error fault => .error fault
  | .ok none => .ok none
  | .ok (some text) =>
    if text = "" then .ok none
    else match Numeral.read? text.toList with
      | some x => .ok (some x)
      | none => .error (.badNumber text)

/-- An integer in text, within limits if there are any. -/
def integer? : Option ReadingLimits → List Char → Option Int
  | none => Decimal.integer?
  | some limits => Decimal.shortInteger? limits.integerDigits

/-- Whether the fields of a record stay within limits, if there are any. -/
def fits (limits : Option ReadingLimits) (row : List String) : Bool :=
  limits.all fun limits => row.all fun text => text.length ≤ limits.fieldLength

/-- Read one record, its fields in the order of the columns. -/
def record? [Numeral α] (limits : Option ReadingLimits) (header row : List String) :
    Except RecordFault (Record α) := do
  if !fits limits row then throw .longField
  let basic ← values? (integer? limits) (← text? header row "basic")
  let nonBasic ← values? (integer? limits) (← text? header row "non_basic")
  let status ← cell? header row "status"
  let isValid ← flag? header row "is_valid"
  let isBasic ← flag? header row "is_basic"
  let isFeasible ← flag? header row "is_feasible"
  let isOptimal ← flag? header row "is_optimal"
  let isUnbounded ← flag? header row "is_unbounded"
  let zeta ← number? header row "zeta"
  let point ← values? Numeral.read? (← text? header row "point")
  let message ← cell? header row "message"
  return { basic, nonBasic, status, isValid, isBasic, isFeasible, isOptimal, isUnbounded, zeta,
           point, message }

/-- Read a table: the first record names the columns, and records without fields are passed over. Records
are read one after the other, so that the first fault counts. -/
def load? [Numeral α] (text : String) (limits : Option ReadingLimits := none) :
    Except RecordFault (List (Record α)) :=
  match Csv.records text with
  | [] => .ok []
  | header :: rows =>
    if fits limits header then (rows.filter fun row => !row.isEmpty).mapM (record? limits header)
    else .error .longField

end Listing

end Polyhedra
