import Multiplex.CommandLine.Run

/-!
# The command

Reads the environment and the settings file, runs the command line and prints
what it reports.
-/

open Multiplex

/-- The part of the file tree that a command line reads: the settings file, or a
folder in its place. -/
def readTree (path : String) : IO FileTree := do
  let place := FilePath.ofText path
  let way := (FileHost.usual.makeWay .empty place.folderSteps.reverse).1
  try
    let contents ← IO.FS.readBinFile path
    return (way.write contents.toList place).toOption.getD way
  catch
    | .noFileOrDirectory _ _ _ => return FileTree.empty
    | _ => return (FileHost.usual.makeWay way place.steps.reverse).1

/-- Runs the command line. -/
def main (words : List String) : IO UInt32 := do
  let home := (← IO.getEnv "HOME").getD ""
  let defaultPath := Settings.defaultPath home (← IO.getEnv "XDG_CONFIG_HOME")
  let tree ← readTree (CommandLine.settingsPath defaultPath words)
  let started ← IO.monoMsNow
  let report := CommandLine.run .usual tree defaultPath words
  for line in report.lines do
    IO.println line
  let elapsed := (← IO.monoMsNow) - started
  if report.isRun then
    IO.println ("Elapsed:    " ++ toString elapsed ++ "ms")
  if let some complaint := report.complaint then
    IO.eprintln complaint
  return report.exitCode.toUInt32
