import TrafficQueue.Scenario.Commute

/-!
# Command line

Simulates the morning on the grid.  Arguments of the form `name=value` change the configuration.
The events and summaries are written to files, a report to standard output.
-/

open TrafficQueue

/-- Seconds with three decimals, from milliseconds. -/
def secondsText (millis : Nat) : String :=
  toString (millis / 1000) ++ "." ++ Text.padded 3 (millis % 1000) ++ " s"

/-- Runs the scenario, writes its files and reports on it. -/
def main (arguments : List String) : IO UInt32 := do
  let start ← IO.monoMsNow
  let outcome := Commute.outcome arguments
  if let some files := outcome.files then
    IO.FS.createDirAll Commute.directory
    IO.FS.writeBinFile (Commute.directory ++ "/events.csv") files.events.visible
    IO.FS.writeBinFile (Commute.directory ++ "/step_summaries.csv") files.summaries.visible
  let stop ← IO.monoMsNow
  for line in outcome.report (secondsText (stop - start)) do
    IO.println line
  for line in outcome.complaints do
    IO.eprintln line
  return outcome.exitCode.toUInt32
