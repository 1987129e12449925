import Polyhedra.CommandLine.Response

/-!
# The command

Prints what a command leads to, writes the file that it asks for, and ends with 0 for a run, 2 for a
command that is wrong, and 1 for a run that was left unfinished.
-/

/-- Write the file, with the directories that lead to it. -/
def Polyhedra.OutputFile.write (file : Polyhedra.OutputFile) : IO Unit := do
  IO.FS.createDirAll (Polyhedra.Text.Path.parent file.path)
  IO.FS.writeFile file.path file.text

open Polyhedra Polyhedra.CommandLine

def main (words : List String) : IO UInt32 := do
  match respond words with
  | .help =>
    IO.print (printedText helpLines)
    return 0
  | .refused message =>
    IO.eprintln ("error: " ++ message)
    return 2
  | .unfinished _ =>
    IO.eprintln "error: the run cannot be finished"
    return 1
  | .finished run =>
    run.file.forM OutputFile.write
    IO.print (printedText run.printed)
    return 0
