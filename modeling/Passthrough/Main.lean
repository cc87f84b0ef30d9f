import Passthrough.CommandLine.Execution
/-!
# The program

The program reads the options file that the arguments name, executes them, and prints and writes
what that comes to. It runs on a machine without audio devices.
-/

namespace Passthrough.CommandLine

def contents? (path : String) : IO (Option ByteArray) := do
  try
    return some (← IO.FS.readBinFile path)
  catch _ => return none

/-- What the arguments come to, once their file is known. A file that turns out not to be writable
is one that cannot be created. -/
def perform (args : List String) : IO Outcome := do
  let contents ← match (Request.ofArgs? args).bind Request.config? with
    | none => pure none
    | some path => contents? path
  let environment (creatable : Bool) : Environment :=
    { contentsOf := fun _ => contents
      roomAt := fun _ => if creatable then some Recording.mostSamples else none
      world := {} }
  let outcome := execute (environment true) args
  match outcome.written with
  | none => return outcome
  | some (path, bytes) =>
    try
      IO.FS.writeBinFile path ⟨bytes.toArray⟩
      return outcome
    catch _ => return execute (environment false) args

end Passthrough.CommandLine

def main (args : List String) : IO UInt32 := do
  let outcome ← Passthrough.CommandLine.perform args
  for line in outcome.lines do IO.println line
  if let some message := outcome.error then IO.eprintln message
  return UInt32.ofNat outcome.exitCode
