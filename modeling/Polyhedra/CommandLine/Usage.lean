import Polyhedra.CommandLine.Switch
import Polyhedra.Text.Quoted

/-!
# Faults of use

What can be wrong with the words of a command, and the list of switches that help shows.
-/

namespace Polyhedra.CommandLine

open Polyhedra.Text

/-- The numbers that switches take. -/
inductive NumberKind where
  | whole
  | decimal
  deriving DecidableEq, Repr

def NumberKind.name : NumberKind → String
  | .whole => "int"
  | .decimal => "float"

/-- The values that a switch with a choice admits. -/
def senseWords : List String := ["max", "min"]

/-- What can be wrong with the words of a command. -/
inductive UsageFault where
  | ambiguous (word : String) (candidates : List String)
  | noValue (switch : Switch)
  | surplusValue (switch : Switch) (value : String)
  | noNumber (switch : Switch) (kind : NumberKind) (value : String)
  | noChoice (switch : Switch) (value : String)
  | missing (switches : List Switch)
  | unrecognized (words : List String)
  deriving DecidableEq, Repr

namespace UsageFault

/-- A fault with the value of a switch. -/
def withSwitch (switch : Switch) (text : String) : String :=
  "argument " ++ switch.name ++ ": " ++ text

def message : UsageFault → String
  | ambiguous word candidates =>
    "ambiguous option: " ++ word ++ " could match " ++ ", ".intercalate candidates
  | noValue switch => withSwitch switch "expected one argument"
  | surplusValue switch value => withSwitch switch ("ignored explicit argument " ++ quoted value)
  | noNumber switch kind value =>
    withSwitch switch ("invalid " ++ kind.name ++ " value: " ++ quoted value)
  | noChoice switch value =>
    withSwitch switch ("invalid choice: " ++ quoted value ++ " (choose from " ++
      ", ".intercalate (senseWords.map quoted) ++ ")")
  | missing switches =>
    "the following arguments are required: " ++ ", ".intercalate (switches.map Switch.name)
  | unrecognized words => "unrecognized arguments: " ++ " ".intercalate words

end UsageFault

/-- The line of a switch in the list. -/
def helpLine (s : Switch) : String :=
  "  " ++ ", ".intercalate s.spellings ++ (if s.takesValue then " VALUE" else "") ++ "  " ++ s.purpose

def helpLines : List String :=
  "Enumerate and classify the vertices of A x <= b, x >= 0" :: "" :: Switch.all.map helpLine

end Polyhedra.CommandLine
