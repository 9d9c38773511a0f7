import PasteQueue.CommandLine.Run

/-!
The program: reads its configuration file, writes the log to the standard output, and serves until
its input ends.
-/

namespace PasteQueue

def findConfig (path : String) : IO Config.Found := do
  try
    return .file (← IO.FS.readBinFile path)
  catch error =>
    match error with
    | .noFileOrDirectory .. => return .nothing
    | _ => return .unreadable

def printRecords (records : List Log.Record) : IO Unit :=
  records.forM fun record => IO.println record.line

partial def waitForEnd (input : IO.FS.Stream) : IO Unit := do
  unless (← input.getLine).isEmpty do waitForEnd input

def printFailure (failure : CommandLine.Failure) : IO Unit := do
  IO.eprintln ("Error: " ++ failure.message)
  unless failure.causes.isEmpty do
    IO.eprintln "\nCaused by:"
    failure.causes.forM fun cause => IO.eprintln ("    " ++ cause)

def finish (outcome : CommandLine.Outcome) : IO Unit :=
  match outcome with
  | .refused error => IO.eprintln ("error: " ++ error.message)
  | .told text => IO.println text
  | .failed failure records => do
    printRecords records
    printFailure failure
  | .brokenOff records | .killed records => printRecords records
  | .served running stopping => do
    printRecords running
    waitForEnd (← IO.getStdin)
    printRecords stopping

/-- The exit code that stands for none. -/
def killedCode : UInt32 := 134

def environment : IO CommandLine.Environment := do
  let pairs ← CommandLine.Environment.names.mapM fun name => return (name, ← IO.getEnv name)
  return .ofVariables fun name => (pairs.lookup name).join

end PasteQueue

open PasteQueue in
def main (arguments : List String) : IO UInt32 := do
  let outcome ←
    match CommandLine.plan (← environment) arguments with
    | .error outcome => pure outcome
    | .ok plan => pure (plan.outcome (← findConfig plan.path))
  finish outcome
  return (outcome.exitCode?.map UInt8.toUInt32).getD killedCode
