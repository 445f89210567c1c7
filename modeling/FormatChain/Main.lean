import FormatChain.Clock
import FormatChain.CommandLine.Process
import FormatChain.Disk.Bare
import Std.Time.DateTime.Timestamp

/-!
# The program

What is on disk and in the surroundings is gathered, the request is carried out, and what became of
it is written back.  All that is decided is decided elsewhere.

* `gatherDisk`, `gatherSurroundings` : what the process starts with.
* `settle` : writes back what changed.
* `watchOn` : looks at settings files until the process is stopped.
* `main` : the whole.
-/

namespace FormatChain.CommandLine

/-- The variables that matter. -/
def variableNames : List String :=
  ["CHAINFMT_GLOBAL_SETTINGS", "XDG_CONFIG_HOME", "HOME", "NO_COLOR", "PATH"]

/-- The time of day. -/
def stampNow : IO String := do
  let now ← Std.Time.Timestamp.now
  let nanos := now.toNanosecondsSinceUnixEpoch.toInt
  return ((Moment.ofUnix? (nanos / 1000000000) (nanos % 1000000000).toNat).map (·.timeOfDay)).getD ""

/-- The bytes of a file, if it can be read. -/
def bytesOfFile (path : Path) : IO (Option (List UInt8)) := do
  try
    let bytes ← IO.FS.readBinFile path.text
    return some bytes.toList
  catch _ => return none

/-- Whether a file that is there refuses to be written. -/
def refusesWriting (path : Path) : IO Bool := do
  try
    let _ ← IO.FS.Handle.mk path.text .append
    return false
  catch _ => return true

/-- A disk with the files of these paths that are there. -/
def gatherDisk (cwd : Path) (paths : List Path) : IO Disk := do
  let around := cwd :: paths.filterMap Path.parent?
  let start := { Disk.bare with directories := around ++ Disk.bare.directories }
  paths.foldlM
    (fun disk path => do
      match ← bytesOfFile path with
      | none => return disk
      | some bytes => return (disk.putBytes path bytes).markReadOnly path (← refusesWriting path))
    start

/-- The variables that are set. -/
def gatherVariables : IO (List (String × String)) :=
  variableNames.filterMapM fun name => do return (← IO.getEnv name).map fun value => (name, value)

/-- The bytes that are left in a stream. -/
partial def remaining (stream : IO.FS.Stream) (before : ByteArray) : IO ByteArray := do
  let more ← stream.read 65536
  if more.isEmpty then return before else remaining stream (before ++ more)

/-- The text that comes in, if the request takes it. -/
def gatherInput (request : Option Request) : IO String := do
  if (request.map Request.takesInput).getD false then
    let bytes ← remaining (← IO.getStdin) ByteArray.empty
    return Text.decodeLossy bytes.toList
  else return ""

/-- What the process starts with, and the files that it can reach. -/
def gatherSurroundings (arguments : List String) : IO (Surroundings × List Path) := do
  let request := (Request.ofArguments arguments).toOption
  let bare : Surroundings :=
    { arguments
      vars := ← gatherVariables
      cwd := ⟨toString (← IO.currentDir)⟩
      disk := {}
      input := ← gatherInput request }
  let paths := (request.map bare.reach).getD []
  return ({ bare with disk := ← gatherDisk bare.cwd paths }, paths)

/-- Writes texts to where they belong. -/
def present (shown : Shown) : IO Unit := do
  let output ← IO.getStdout
  let log ← IO.getStderr
  output.putStr shown.output
  output.flush
  log.putStr shown.log
  log.flush

/-- Writes back what changed. -/
def settle (changes : List (Path × Option (List UInt8))) : IO Unit :=
  changes.forM fun (path, bytes) =>
    match bytes with
    | some bytes => IO.FS.writeBinFile path.text bytes.toByteArray
    | none => IO.FS.removeFile path.text

/-- Looks at the settings files again and again. -/
partial def watchOn (console : Console) (cwd : Path) (paths : List Path) (w : Watched) : IO Unit := do
  IO.sleep Watch.interval.toUInt32
  let (w, shown) := w.look console (← stampNow) (← gatherDisk cwd paths)
  present shown
  watchOn console cwd paths w

/-- Carries out a request that watches settings files. -/
def watchFor (s : Surroundings) (paths : List Path) (request : Request) : IO UInt32 := do
  let (result, session) := request.beginWatch.run.run (s.session request.verbose)
  match result with
  | .ok watch =>
    present ((s.console request).renderAll (← stampNow) session.history.reverse)
    watchOn (s.console request) s.cwd paths ⟨watch, session⟩
    return 0
  | .error failure =>
    let outcome := s.conclude request (← stampNow) (.error failure) session
    present outcome.shown
    return outcome.exitCode.toUInt32

/-- Carries out any other request. -/
def carryOut (s : Surroundings) (paths : List Path) : IO UInt32 := do
  let outcome := s.outcome (← stampNow) 0
  settle (outcome.session.disk.changesSince s.disk paths)
  present outcome.shown
  return outcome.exitCode.toUInt32

end FormatChain.CommandLine

open FormatChain.CommandLine in
/-- The program: a formatter that takes texts through chains of formatters. -/
def main (arguments : List String) : IO UInt32 := do
  let (surroundings, paths) ← gatherSurroundings arguments
  match Request.ofArguments arguments with
  | .ok request =>
    match request.task with
    | .checkConflicts true => watchFor surroundings paths request
    | _ => carryOut surroundings paths
  | .error _ => carryOut surroundings paths
