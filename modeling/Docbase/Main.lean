import Std.Time.DateTime.Timestamp
import Docbase.CommandLine.Report

/-!
# The program

Carries out the command that its arguments ask for. All records of a run are made at the moment of
its beginning, and their identifiers follow on a random one.
-/

namespace Docbase

/-- Reads the files that can be read. -/
def readFiles (paths : List String) : IO Files :=
  paths.filterMapM fun (path : String) => do
    try
      return some (path, ← IO.FS.readFile path)
    catch _ => return none

/-- The files that arguments ask for. -/
def filesFor (arguments : List String) : IO Files :=
  match CommandLine.Invocation.ofArguments arguments with
  | .ok invocation => readFiles invocation.command.paths
  | .error _ => return []

/-- The surroundings of a run. -/
def surroundings : IO Surroundings := do
  let now ← Std.Time.Timestamp.now
  let micros := now.toNanosecondsSinceUnixEpoch.val / 1000
  return { lastId := ← IO.rand 0 (Nat.pow 2 128), now := micros }

/-- Writes the log records of a report. -/
def writeRecords (records : List Record) : IO Unit := do
  for record in records do
    match record.consoleLine with
    | .ok line => IO.eprintln line
    | .error _ => return

end Docbase

/-- Carries out a command. -/
def main (arguments : List String) : IO UInt32 := do
  let report := Docbase.CommandLine.report (← Docbase.filesFor arguments)
    (← Docbase.surroundings) arguments
  Docbase.writeRecords report.records
  IO.print report.display.onScreen
  match report.escaped with
  | some kind => IO.eprintln kind
  | none => pure ()
  return report.exitCode.toUInt32
