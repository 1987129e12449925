/-!
# Paths of files

A path is a list of names between strokes; empty names and single dots say nothing and are dropped. It may
start at the root, written as one stroke, or at a second root, written as exactly two.
-/

namespace Polyhedra.Text.Path

/-- The names of a path that say something. -/
def names (path : String) : List String :=
  (path.splitOn "/").filter fun name => name != "" && name != "."

/-- The root that a path starts at, or nothing. -/
def root (path : String) : String :=
  match (path.toList.takeWhile (· == '/')).length with
  | 0 => ""
  | 2 => "//"
  | _ => "/"

/-- Names written as a path from a root, or from the place where one is. -/
def ofNames (root : String) (names : List String) : String :=
  let text := root ++ "/".intercalate names
  if text = "" then "." else text

/-- A path as it is shown; one that says nothing is a dot. -/
def shown (path : String) : String :=
  ofNames (root path) (names path)

def parent (path : String) : String :=
  ofNames (root path) (names path).dropLast

/-- Follow names from a place, given with its latest name first; two dots lead back. There is no answer
when they lead out of where the place starts. -/
def follow? : (place : List String) → List String → Option (List String)
  | place, [] => some place
  | place, name :: rest =>
    if name = ".." then
      match place with
      | [] => none
      | _ :: outer => follow? outer rest
    else follow? (name :: place) rest

/-- The place that a path leads to from where one is, written without dots, if it does not lie outside. -/
def resolved? (path : String) : Option String :=
  if root path != "" then none
  else (follow? [] (names path)).map fun place => "/".intercalate place.reverse

/-- Why no file can be written at a path. -/
inductive Fault where
  | nul
  | tooLong
  | tooDeep
  | directory
  deriving DecidableEq, Repr

/-- The greatest number of bytes of a name. -/
def nameLimit : Nat := 255

/-- The greatest number of bytes of a path. -/
def pathLimit : Nat := 4095

/-- The greatest number of directories that are made one inside the other. -/
def depthLimit : Nat := 988

/-- Whether a name has a character that cannot be there. -/
def hasNul (name : String) : Bool :=
  name.toList.contains '\x00'

def isLongName (name : String) : Bool :=
  nameLimit < name.utf8ByteSize

def isLongPath (root : String) (names : List String) : Bool :=
  pathLimit < (ofNames root names).utf8ByteSize

/-- What is wrong with names that make up a path: a character that cannot be there, or their length. -/
def namesFault? (root : String) (names : List String) : Option Fault :=
  if names.any hasNul then some .nul
  else if names.any isLongName || isLongPath root names then some .tooLong
  else none

/-- The names of the directories that are to be made; two dots at the start lead to some that are there. -/
def newNames (names : List String) : List String :=
  names.dropWhile (· == "..")

/-- What is wrong with the directories that lead to a file. Only the first of them is looked for before it
shows that there are too many, so the length of the other names is found later. -/
def directoryFault? (root : String) (names : List String) : Option Fault :=
  if names.any hasNul then some .nul
  else if isLongPath root names || (newNames names).head?.any isLongName then some .tooLong
  else if depthLimit < (newNames names).length then some .tooDeep
  else namesFault? root names

/-- The places that are passed on the way along names, from where one is. -/
def passed (names : List String) : List (List String) :=
  (List.range names.length).filterMap fun k => follow? [] (names.take k)

/-- What is wrong with a path as that of a file, the directory that leads to it first. A path that says
nothing, ends with two dots or leads to a place that it passes names a directory. -/
def fault? (path : String) : Option Fault :=
  let all := names path
  (directoryFault? (root path) all.dropLast).or <| (namesFault? (root path) all).or <|
    match all.getLast? with
    | none | some ".." => some .directory
    | some _ => if (follow? [] all).any (passed all).contains then some .directory else none

end Polyhedra.Text.Path
