import CodeWindow.CommandLine.Run
import CodeWindow.Recording

/-! The program. Machine code and object files are read from the answers of tools that are recorded
in the file `recording.json` of the working directory. -/

namespace CodeWindow

/-- The text of a file, unless it cannot be read. -/
def readTextFile (path : String) : IO (Option String) := do
  try
    pure (some (← IO.FS.readFile path))
  catch _ => pure none

/-- The files that arguments name. -/
def namedFiles (args : List String) : List String :=
  match CommandLine.parse args with
  | .run options => [options.config, options.snapshot, options.elf].filterMap id
  | _ => []

/-- What surrounds a run of the program: the files that its arguments name, and the recorded answers
of tools. -/
def gatherSurroundings (args : List String) : IO CommandLine.Surroundings := do
  let texts ← (namedFiles args).filterMapM fun path => do
    pure ((← readTextFile path).map fun text => (path, text))
  let recording := ((← readTextFile "recording.json").bind Json.parse?).getD .null
  pure {
    readText := fun path => texts.lookup path
    readObject := fun path =>
      ((recording.get? "objects").bind fun objects => Recording.objectSymbols? (objects.get? path))
    disassembler := Recording.disassemblerOf (recording.itemsAt "listings")
    demangler := Recording.demanglerOf (recording.membersAt "names") "hashed" "itanium" }

end CodeWindow

/-- Runs the program: prints the window, or reports the failure. -/
def main (args : List String) : IO UInt32 := do
  let outcome := CodeWindow.CommandLine.run (← CodeWindow.gatherSurroundings args) args
  IO.print outcome.output
  if let some failure := outcome.failure then
    IO.eprintln ("Error: " ++ failure)
  pure (UInt32.ofNat outcome.exitCode)
