import TableReport.CommandLine.Run
/-!
# The program

Reads the arguments and the file they name, and prints the answer.
-/
open TableReport

/-- The error code of an attempt to read a directory. -/
def directoryCode : UInt32 := 21

/-- What stands at a path of the file system. Workbook files are not decoded, so they are bytes like any
other file. -/
def contentAt (path : String) : IO (Option FileContent) := do
  try
    let bytes ← IO.FS.readBinFile path
    return some (.bytes bytes.toList)
  catch e =>
    match e with
    | .inappropriateType _ code _ => return if code = directoryCode then some .directory else none
    | _ => return none

/-- Runs the program. -/
def main (arguments : List String) : IO UInt32 := do
  match CommandLine.Arguments.ofList arguments with
  | .error e =>
    IO.eprintln s!"error: {e.message}"
    return CommandLine.usageExitCode.toUInt32
  | .ok a =>
    let outcome := a.run (← contentAt a.path) (← IO.getEnv "RUST_LOG")
    for event in outcome.log do
      IO.eprintln (CommandLine.logLine event)
    IO.print outcome.output
    return outcome.exitCode.toUInt32
