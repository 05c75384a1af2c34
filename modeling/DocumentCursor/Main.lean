import DocumentCursor.Probe.Run

/-! # The command-line program

Reads the environment and the file of settings that it names, runs the probe and prints its report.
No connection can be made from here, so every candidate is out of reach.
-/

namespace DocumentCursor.Probe

open Net

/-- A failed reading of a file. -/
def systemError : IO.Error → SystemError
  | .noFileOrDirectory .. => .notFound
  | .permissionDenied .. => ⟨.permissionDenied, "Permission denied (os error 13)"⟩
  | .inappropriateType .. => .isADirectory
  | error => ⟨.other "Uncategorized", toString error⟩

/-- The variables that are set. -/
def readEnvironment : IO Environment :=
  (Environment.fileName :: filterName :: Environment.names).filterMapM fun name => do
    return (← IO.getEnv name).map fun value => (name, value.toUTF8)

/-- The one file that is looked at. -/
def readFiles (environment : Environment) : IO Files := do
  match environment.get? Environment.fileName with
  | none => return fun _ => .error .notFound
  | some path =>
    let content ← (IO.FS.readBinFile path).toBaseIO
    return fun _ => content.mapError systemError

/-- Runs the probe and prints its report. -/
def report (arguments : List String) : IO UInt32 := do
  let environment ← readEnvironment
  let report := run arguments environment (← readFiles environment) outOfReach
  report.output.forM IO.println
  report.errors.forM IO.eprintln
  return UInt32.ofNat report.exit

end DocumentCursor.Probe

/-- Runs the probe. -/
def main (arguments : List String) : IO UInt32 := DocumentCursor.Probe.report arguments
