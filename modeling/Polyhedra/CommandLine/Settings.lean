import Polyhedra.CommandLine.Argument
import Polyhedra.Enumeration.Config
import Polyhedra.Problem

/-!
# Settings of a command

The arguments of a command are gone through from left to right. Each switch changes a setting, the last
value counting; words that belong to no switch are put aside. A fault of a value is found at its switch,
missing switches are looked for at the end, and words put aside are told last. An attached value that is a
double dash and nothing else gives a switch nothing: the switch counts as given, but has no value.
-/

namespace Polyhedra.CommandLine

/-- What a switch was given. -/
inductive Given (β : Type) where
  | value (x : β)
  | nothing
  deriving DecidableEq, Repr

namespace Given

variable {β : Type}

def isNothing : Given β → Bool
  | value _ => false
  | nothing => true

/-- The value, or what stands for a missing one. -/
def getD (default : β) : Given β → β
  | value x => x
  | nothing => default

def shownNothing : String := "[]"

def shown [ToString β] : Given β → String
  | value x => toString x
  | nothing => shownNothing

end Given

/-- The values that switches were given. -/
structure Settings where
  constraints : Option (Given String) := none
  bounds : Option (Given String) := none
  objective : Option (Given String) := none
  sense : SenseRequest := .word "max"
  workers : Given Int := .value 1
  chunkSize : Given Int := .value 64
  shardIndex : Option (Given Int) := none
  shardCount : Option (Given Int) := none
  limit : Option (Given Int) := none
  tolerance : Given Float := .value 0.0
  pivotTolerance : Given Float := .value 0.0
  verify : Bool := false
  verifyDigits : Given Int := .value 50
  crosscheck : Bool := false
  output : Option String := none
  verbose : Bool := false

/-- Why a command is not carried out: it asks for help, or it is wrong. -/
inductive Refusal where
  | help
  | fault (fault : UsageFault)
  deriving DecidableEq, Repr

namespace Settings

/-- Whether a switch was given, for those that must be. -/
def has (t : Settings) : Switch → Bool
  | .constraints => t.constraints.isSome
  | .bounds => t.bounds.isSome
  | .objective => t.objective.isSome
  | _ => true

def wholeNumber? (s : Switch) (value : String) : Except UsageFault (Given Int) :=
  match Decimal.shortInteger? Decimal.usualDigits value.toList with
  | some n => .ok (.value n)
  | none => .error (.noNumber s .whole value)

def decimalNumber? (s : Switch) (value : String) : Except UsageFault (Given Float) :=
  match Numeral.read? value.toList with
  | some x => .ok (.value x)
  | none => .error (.noNumber s .decimal value)

def chosenSense? (s : Switch) (value : String) : Except UsageFault SenseRequest :=
  if senseWords.contains value then .ok (.word value) else .error (.noChoice s value)

/-- The file that a switch was given; an empty name stands for none. -/
def chosenOutput (value : String) : Option String :=
  if value = "" then none else some value

/-- Change the setting of a switch that takes a value. -/
def assign? (t : Settings) (s : Switch) (value : String) : Except UsageFault Settings :=
  match s with
  | .constraints => .ok { t with constraints := some (.value value) }
  | .bounds => .ok { t with bounds := some (.value value) }
  | .objective => .ok { t with objective := some (.value value) }
  | .sense => (chosenSense? s value).map fun sense => { t with sense }
  | .workers => (wholeNumber? s value).map fun n => { t with workers := n }
  | .chunkSize => (wholeNumber? s value).map fun n => { t with chunkSize := n }
  | .shardIndex => (wholeNumber? s value).map fun n => { t with shardIndex := some n }
  | .shardCount => (wholeNumber? s value).map fun n => { t with shardCount := some n }
  | .limit => (wholeNumber? s value).map fun n => { t with limit := some n }
  | .tolerance => (decimalNumber? s value).map fun x => { t with tolerance := x }
  | .pivotTolerance => (decimalNumber? s value).map fun x => { t with pivotTolerance := x }
  | .verifyDigits => (wholeNumber? s value).map fun n => { t with verifyDigits := n }
  | .output => .ok { t with output := chosenOutput value }
  | .help | .verify | .crosscheck | .verbose => .error (.surplusValue s value)

/-- Give a switch that takes a value nothing. -/
def clear (t : Settings) : Switch → Settings
  | .constraints => { t with constraints := some .nothing }
  | .bounds => { t with bounds := some .nothing }
  | .objective => { t with objective := some .nothing }
  | .sense => { t with sense := .other Given.shownNothing }
  | .workers => { t with workers := .nothing }
  | .chunkSize => { t with chunkSize := .nothing }
  | .shardIndex => { t with shardIndex := some .nothing }
  | .shardCount => { t with shardCount := some .nothing }
  | .limit => { t with limit := some .nothing }
  | .tolerance => { t with tolerance := .nothing }
  | .pivotTolerance => { t with pivotTolerance := .nothing }
  | .verifyDigits => { t with verifyDigits := .nothing }
  | .output => { t with output := none }
  | .help | .verify | .crosscheck | .verbose => t

/-- Change the setting of a switch to which a value is attached. -/
def attach? (t : Settings) (s : Switch) (value : String) : Except UsageFault Settings :=
  if s.takesValue && value == "--" then .ok (t.clear s) else t.assign? s value

def turnOn (t : Settings) : Switch → Settings
  | .verify => { t with verify := true }
  | .crosscheck => { t with crosscheck := true }
  | .verbose => { t with verbose := true }
  | _ => t

end Settings

/-- What is wrong with letters after the letter for help. They may be switches up to the first one that
takes a value; the value is what follows it, in the word or, if `valueFollows`, behind the word. -/
def lettersFault? (valueFollows : Bool) : List Char → Option UsageFault
  | [] => none
  | c :: rest =>
    match switch? (String.ofList ['-', c]) with
    | none => some (.surplusValue .help (String.ofList (c :: rest)))
    | some s =>
      if s.takesValue then if rest.isEmpty && !valueFollows then some (.noValue s) else none
      else lettersFault? valueFollows rest

/-- What is wrong with text attached to the letter for help: it is empty, or its letters are wrong. -/
def helpFault? (valueFollows : Bool) (text : String) : Option UsageFault :=
  if text = "" then some (.surplusValue .help text) else lettersFault? valueFollows text.toList

/-- Go through arguments. The result holds the settings and the words put aside, in order. -/
def consume : Settings → List Argument → Except Refusal (Settings × List String)
  | t, [] => .ok (t, [])
  | t, .plain word :: rest => (consume t rest).map fun (t, aside) => (t, word :: aside)
  | t, .unknown word :: rest => (consume t rest).map fun (t, aside) => (t, word :: aside)
  | t, .switch s (some value) :: rest =>
    match t.attach? s value with
    | .error fault => .error (.fault fault)
    | .ok t => consume t rest
  | t, .letter s text :: rest =>
    if s.takesValue then
      match t.attach? s text with
      | .error fault => .error (.fault fault)
      | .ok t => consume t rest
    else
      match helpFault? (rest matches .plain _ :: _) text with
      | some fault => .error (.fault fault)
      | none => .error .help
  | t, .switch s none :: rest =>
    if s = .help then .error .help
    else if s.takesValue then
      match rest with
      | .plain value :: rest =>
        match t.assign? s value with
        | .error fault => .error (.fault fault)
        | .ok t => consume t rest
      | _ => .error (.fault (.noValue s))
    else consume (t.turnOn s) rest

def settings? (words : List String) : Except Refusal Settings :=
  match Argument.ofWords? words with
  | .error fault => .error (.fault fault)
  | .ok (arguments, left) =>
    match consume {} arguments with
    | .error refusal => .error refusal
    | .ok (t, aside) =>
      match Switch.all.filter fun s => s.isRequired && !t.has s with
      | [] =>
        match aside ++ left with
        | [] => .ok t
        | words => .error (.fault (.unrecognized words))
      | switches => .error (.fault (.missing switches))

end Polyhedra.CommandLine
