import Verdict.Command.Run

/-!
# The program

Reads the settings and the files that its arguments ask for, and prints what comes of them.
-/

open Verdict.Command

/-- The content of a file, if it can be read as text. -/
def readText? (file : String) : IO (Option String) := do
  try return some (← IO.FS.readFile file) catch _ => return none

def main (args : List String) : IO UInt32 := do
  let settingsText ← readText? settingsFile
  let names := varsSetting :: (settingsText.map Settings.mentioned).getD []
  let settings : Settings ← names.filterMapM fun name => return (← IO.getEnv name).map (name, ·)
  let invocation := Invocation.ofArguments (settings.withFile settingsText) args
  let contents ← (settingsFile :: invocation.files).mapM fun file => return (file, ← readText? file)
  let outcome := run settings (fun file => (contents.lookup file).join) args
  IO.print outcome.output
  if let some line := outcome.errorLine? then IO.eprintln line
  return outcome.code.toUInt32
