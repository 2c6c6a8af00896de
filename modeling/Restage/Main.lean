import Restage.StartUp

/-!
# The command

`main` reads the configuration, reports what is wrong with it, and otherwise finds that no job
store can be reached from here.
-/

open Restage

/-- Starts the service; the answer is its exit code. -/
def main (arguments : List String) : IO UInt32 := do
  let file := StartUp.fileOf arguments
  let content ← try some <$> IO.FS.readBinFile file.text catch _ => pure none
  match StartUp.prepare file content with
  | .error fault => IO.eprintln fault.report
  | .ok _ => IO.eprintln StartFault.noStore.report
  return 1
