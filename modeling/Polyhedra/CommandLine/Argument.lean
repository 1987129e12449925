import Polyhedra.CommandLine.Usage
import Polyhedra.Text.Digit

/-!
# Words of a command

Every word of a command is a switch, perhaps with an attached value, or a plain word. A switch may be
spelled in full, or cut short as long as it is the only one that starts so; a value is attached after an
equals sign, or to a letter directly as well. A word that starts with a dash is plain if it is a single
dash, a negative number, or holds a space and starts with no switch.
-/

namespace Polyhedra.CommandLine

open Polyhedra.Text

/-- A word with what it means: no switch, an unknown switch, a switch with the value after the equals sign
of its word, or the letter of a switch with the text that is attached to it. -/
inductive Argument where
  | plain (word : String)
  | unknown (word : String)
  | switch (switch : Switch) (value : Option String)
  | letter (switch : Switch) (text : String)
  deriving DecidableEq, Repr

def splitAtEquals (cs : List Char) : List Char × Option (List Char) :=
  match cs.dropWhile (· != '=') with
  | [] => (cs, none)
  | _ :: value => (cs.takeWhile (· != '='), some value)

/-- Digits of any script, at least one. -/
def areDigits (cs : List Char) : Bool :=
  !cs.isEmpty && cs.all fun c => (digitValue? c).isSome

/-- Whether a word is a negative number: a dash and digits, or digits with a point that is followed by at
least one of them. A line break may follow. -/
def isNegativeNumber (cs : List Char) : Bool :=
  match cs with
  | '-' :: rest =>
    let rest := if rest.getLast? = some '\n' then rest.dropLast else rest
    areDigits rest ||
      match rest.dropWhile fun c => (digitValue? c).isSome with
      | '.' :: fraction => areDigits fraction
      | _ => false
  | _ => false

namespace Argument

/-- A spelling with a value attached after an equals sign. -/
def attached (s : Switch) (spelling value : List Char) : Argument :=
  match spelling with
  | '-' :: '-' :: _ => switch s (some (String.ofList value))
  | _ => letter s (String.ofList value)

/-- A switch in full, with a value if one is attached after an equals sign. -/
def full? (word : String) : Option Argument :=
  match switch? word with
  | some s => some (switch s none)
  | none =>
    match splitAtEquals word.toList with
    | (_, none) => none
    | (spelling, some value) =>
      (switch? (String.ofList spelling)).map fun s => attached s spelling value

/-- What a word that is no full spelling may mean, each with the spelling meant. -/
def candidates (word : String) : List (String × Argument) :=
  match word.toList with
  | '-' :: '-' :: _ =>
    let (start, value) := splitAtEquals word.toList
    (spelled.filter fun entry => start.isPrefixOf entry.1.toList).map fun (spelling, s) =>
      (spelling, switch s (value.map String.ofList))
  | '-' :: c :: text =>
    let spelling := String.ofList ['-', c]
    (switch? spelling).toList.map fun s => (spelling, letter s (String.ofList text))
  | _ => []

/-- What a word that is no full spelling means. -/
def shortened? (word : String) : Except UsageFault Argument :=
  match candidates word with
  | [(_, argument)] => .ok argument
  | [] =>
    if isNegativeNumber word.toList || word.toList.contains ' ' then .ok (plain word)
    else .ok (unknown word)
  | several => .error (.ambiguous word (several.map Prod.fst))

/-- What a word means. -/
def ofWord? (word : String) : Except UsageFault Argument :=
  match word.toList with
  | '-' :: _ :: _ =>
    match full? word with
    | some argument => .ok argument
    | none => shortened? word
  | _ => .ok (plain word)

/-- What the words of a command mean, up to a lone double dash; that word and all after it are left over.
The first ambiguous word is a fault. -/
def ofWords? : List String → Except UsageFault (List Argument × List String)
  | [] => .ok ([], [])
  | word :: rest =>
    if word = "--" then .ok ([], word :: rest)
    else
      match ofWord? word with
      | .error fault => .error fault
      | .ok argument => (ofWords? rest).map fun (arguments, left) => (argument :: arguments, left)

end Argument

end Polyhedra.CommandLine
