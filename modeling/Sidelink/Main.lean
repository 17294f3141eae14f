import Sidelink.CommandLine.Answer

/-!
# The program

Reads the files that the command line names, prints the answer and writes the trace.
-/

namespace Sidelink

def readText (path : String) : IO (Option String) := do
  try
    return some (← IO.FS.readFile path)
  catch _ =>
    return none

/-- Writes the lines of a trace file. One that cannot be written is left out. -/
def writeLines (path : String) (lines : Option (List String)) : IO Unit := do
  match lines with
  | none => return
  | some ls =>
    try
      IO.FS.writeFile path (String.join (ls.map (· ++ "\n")))
    catch e => IO.eprintln s!"cannot write {path} {e}"

def writeTrace (dir : String) (t : Trace Float) : IO Unit := do
  try
    IO.FS.createDirAll dir
    writeLines (dir ++ "/selections.csv") t.selectionLines
    writeLines (dir ++ "/receptions.csv") (t.receptionLines Decimal.fixed)
  catch e => IO.eprintln s!"cannot create {dir} {e}"

end Sidelink

open Sidelink in
def main (args : List String) : IO UInt32 := do
  let paths := ((Command.ofArgs? args).map Command.files).getD []
  let texts ← paths.mapM readText
  let answer := Answer.ofArgs (fun path => ((paths.zip texts).lookup path).join) args
  for line in answer.lines do
    IO.println line
  if let some complaint := answer.complaint then
    IO.eprintln complaint
  if let some (dir, t) := answer.trace then
    writeTrace dir t
  return UInt32.ofNat answer.exit
