/-
The program.

`main` gathers the surroundings of a run, makes the run, and puts out what it gives.  The
network is out of reach from here, so every fetch fails.
-/
import Std.Time.DateTime.Timestamp
import ContractDrift.CommandLine.Run

namespace ContractDrift.CommandLine

/-- The files among some paths and below them, added to a tree. -/
partial def gather (paths : List String) (t : Files.Tree) : IO Files.Tree :=
  paths.foldlM (fun t (path : String) => do
    let here ← IO.FS.realPath path
    if ← here.isDir then
      let inside ← here.readDir
      gather (inside.toList.map (·.path.toString))
        (t.insert (Files.components here.toString) .directory)
    else if ← here.pathExists then
      let content ← IO.FS.readBinFile here
      return t.insert (Files.components here.toString) (.file content.toList)
    else return t) t

/-- The variables of settings that are set. -/
def settingsEnvironment : IO Environment.Assignments := do
  let names := (Settings.keys.flatMap (·.variables)).map Text.upper
  names.filterMapM fun name => do
    return (← IO.getEnv name).map fun value => (name, some value)

/-- The time by the clock of the system. -/
def currentMoment : IO Drift.Moment := do
  let t ← Std.Time.Timestamp.now
  return .ofMicroseconds (t.toNanosecondsSinceUnixEpoch.val.toNat / 1000)

/-- What the network answers when there is none. -/
def noNetwork : Http.Network := fun _ =>
  .problem ⟨"ConnectError", "the network is out of reach"⟩

/-- Saves a report. -/
def save (s : Saved) : IO Unit := do
  IO.FS.createDirAll s.directory.text
  IO.FS.writeFile (s.directory.text ++ "/" ++ s.report.fileName) s.report.fileText

/-- What is said about a run that does not end by itself. -/
def Ending.remark : Ending → Option String
  | .misused => some overview
  | .brokenOff e => some e.message
  | _ => none

/-- Makes a run with some arguments. -/
def runProgram (arguments : List String) : IO UInt32 := do
  let here := (← IO.currentDir).toString
  let environment ← settingsEnvironment
  let files ← gather [here] (.ofDirectory (Files.components here))
  let now ← currentMoment
  let s := run ⟨files, Files.components here, environment, noNetwork, now, now.logText⟩ arguments
  s.saved.forM save
  s.output.forM IO.println
  (s.complaints ++ s.ending.remark.toList).forM IO.eprintln
  return s.ending.exitStatus.toUInt32

end ContractDrift.CommandLine

/-- Runs the program. -/
def main (arguments : List String) : IO UInt32 :=
  ContractDrift.CommandLine.runProgram arguments
