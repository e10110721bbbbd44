import AwkEdit.CommandLine.Run

/-!
# The program

The outer layer: it looks up what a command line can come to know of the files, runs it over that, and then does to the real files
what was done to them there. There is no parser to call, so commands that need one say that it is not installed.
-/

namespace AwkEdit.CommandLine

/-- The name of a location for the file system. -/
def nameOf (l : Location) : String := "/" ++ "/".intercalate l

/-- What is at a location. -/
def look (l : Location) : IO (Option FileEntry) := do
  match ← (IO.FS.readBinFile (nameOf l)).toBaseIO with
  | .ok bytes => return some (.file bytes.toList)
  | .error (.inappropriateType ..) => return some .directory
  | .error _ => return none

/-- Files after locations were looked at. -/
def lookAt (fs : Files) (ls : List Location) : IO Files :=
  ls.foldlM (fun fs l => do return (← look l).elim fs (fs.put l)) fs

/-- The variables of the environment that matter. -/
def readVariables : IO (List (String × String)) :=
  [Layers.logLevelVariable, Layers.indentUnitVariable, Layers.logDirVariable, "HOME"].filterMapM fun name => do
    return (← IO.getEnv name).map (name, ·)

/-- What a command line can come to know of the files: the file of settings, what it names, and the log. -/
def survey (environment : List (String × String)) (arguments : List String) : IO Files := do
  let hereName := (← IO.currentDir).toString
  let here := PathName.names hereName
  let fs ← lookAt ⟨here, hereName, []⟩ (Files.way [] here)
  match Request.ofArguments arguments with
  | .asked r =>
    let fs ← lookAt fs ((settingsName :: r.names).flatMap fun name => Files.way (fs.base name) (PathName.names name))
    lookAt fs ((logDirectory? environment fs r).elim [] fun l => Files.way [] (l ++ [logFileName]))
  | _ => return fs

/-- Does to the real files what was put among the surveyed ones. -/
def carryOut (surveyed after : Files) : IO Unit :=
  (after.entries.take (after.entries.length - surveyed.entries.length)).reverse.forM fun
    | (l, .directory) => IO.FS.createDir (nameOf l)
    | (l, .file bytes) => IO.FS.writeBinFile (nameOf l) ⟨bytes.toArray⟩

/-- Adds records to the log file in a directory. -/
def writeLog (directory : Location) (records : List LogRecord) : IO Unit := do
  let file ← IO.FS.Handle.mk (nameOf (directory ++ [logFileName])) .append
  records.forM fun r => file.putStrLn r.line

/-- Runs a command line on the real files. -/
def runReal (arguments : List String) : IO UInt32 := do
  let environment ← readVariables
  let files ← survey environment arguments
  let (outcome, after) := run ⟨environment, { runtime := false }, fun _ => ⟨.empty, false⟩⟩ ⟨files, []⟩ arguments
  carryOut files after.files
  if let .asked r := Request.ofArguments arguments then
    if let some directory := logDirectory? environment files r then
      unless outcome.records.isEmpty do writeLog directory outcome.records
  IO.print outcome.output
  outcome.complaint.toList.forM fun line => IO.eprintln line
  outcome.breakdown.forM fun breakdown => IO.eprintln breakdown.message
  return UInt32.ofNat outcome.status

end AwkEdit.CommandLine

/-- The program. -/
def main (arguments : List String) : IO UInt32 := AwkEdit.CommandLine.runReal arguments
