import FormatChain.Command.CheckConflicts
import FormatChain.Command.RunCommand
import FormatChain.CommandLine.Request
import FormatChain.Session.Console

/-!
# The program as a process

A request is performed in an application of its own, and the process says how that ended.

* `Request.perform` : does what was asked for, in an application of its own.
* `Surroundings` : what a process starts with.
* `Surroundings.globalSettings` : the file of the global settings.
* `Surroundings.outcome` : what a process leaves behind.
* `Path.folded` : a path without dots.
* `Surroundings.reach` : the files that a request can look at.
* `Disk.changesSince` : the files that became others.
* `Request.beginWatch`, `Watched` : settings under watch, for a loop that looks again and again.
-/

/-! ## Doing what a command line asks for -/

namespace FormatChain.CommandLine

/-- The directory of the workspace. -/
def Request.root (r : Request) : Action Path :=
  match r.workspace with
  | some dir => Workspace.resolvePath dir
  | none => do return (← get).cwd

/-- What commands work with when the formatters run commands. -/
def workbench (root : Path) (meanwhile : Nat → Action Unit) : Workbench :=
  ⟨root, fun settings => Action.tell (Registry.ofSettings settings), meanwhile⟩

/-- Does a task. Settings files are watched for so many looks. -/
def Task.perform (bench : Workbench) (looks : Nat) : Task → Attempt Unit
  | .format file language none => Command.formatFile bench file language
  | .format file language range => Command.formatSelection bench file language range
  | .formatInput file language => Command.formatInput bench file language
  | .runCommand id file => Command.runCommand bench id file
  | .listCommands => Command.showCommands bench.root
  | .resolve language => Command.showResolution bench.root language
  | .checkConflicts false => Command.checkConflicts bench.root
  | .checkConflicts true => do
    let watch ← Watch.begin bench.root
    let _ ← Watch.keep bench.meanwhile looks watch
  | .showVersion => Command.showVersion
  | .showHelp text => Command.showHelp text

/-- Does a task in an application of its own. -/
def Request.performWithin (r : Request) (meanwhile : Nat → Action Unit) (looks : Nat) :
    Attempt Unit :=
  ExceptT.mk do
    let root ← r.root
    Action.debug s!"Workspace: {root.text}"
    Application.within do
      Application.start
      let result ← (r.task.perform (workbench root meanwhile) looks).run
      Application.shutDown
      return result

/-- Does what was asked for. -/
def Request.perform (r : Request) (meanwhile : Nat → Action Unit) (looks : Nat) : Attempt Unit :=
  match r.task with
  | .showVersion => Command.showVersion
  | .showHelp text => Command.showHelp text
  | _ => r.performWithin meanwhile looks

end FormatChain.CommandLine

/-!
## The program as a process

A process has arguments, variables, a working directory, files and text that comes in.  It ends with a
number, and leaves files and texts behind.
-/

namespace FormatChain.CommandLine

/-- What a process starts with. -/
structure Surroundings where
  /-- The arguments. -/
  arguments : List String
  /-- The variables. -/
  vars : List (String × String)
  /-- The working directory. -/
  cwd : Path
  /-- The files. -/
  disk : Disk
  /-- The text that comes in. -/
  input : String

/-- What a process leaves behind. -/
structure Outcome where
  /-- The number with which it ends. -/
  exitCode : Nat
  /-- What it wrote. -/
  shown : Shown
  /-- The session at its end. -/
  session : Session

namespace Surroundings

/-- The file of the global settings: the one that a variable names, or the one in the directory for
settings. -/
def globalSettings (s : Surroundings) : Option Path :=
  let inDirectory (dir : Path) := (dir.join ⟨"chainfmt"⟩).join ⟨"settings.json"⟩
  match Entries.get? "CHAINFMT_GLOBAL_SETTINGS" s.vars with
  | some file => some ⟨file⟩
  | none =>
    match (Entries.get? "XDG_CONFIG_HOME" s.vars).filter fun dir => (Path.mk dir).isAbsolute with
    | some dir => some (inDirectory ⟨dir⟩)
    | none =>
      match (Entries.get? "HOME" s.vars).filter fun home => !home.isEmpty with
      | some home => some (inDirectory ((Path.mk home).join ⟨".config"⟩))
      | none => none

/-- Whether messages have colours. -/
def coloured (s : Surroundings) : Bool :=
  ((Entries.get? "NO_COLOR" s.vars).getD "").isEmpty

/-- The session of a process at its start. -/
def session (s : Surroundings) (verbose : Bool) : Session :=
  { disk := s.disk
    cwd := s.cwd
    vars := s.vars
    globalSettings := s.globalSettings
    input := some s.input
    verbose }

/-- How events are shown for a request. -/
def console (s : Surroundings) (r : Request) : Console :=
  { forPrograms := r.isForPrograms, coloured := s.coloured }

/-- The last words of a process that ends because of a failure. -/
def lastWords (text : String) : String := if text.isEmpty then "" else text ++ "\n"

/-- What a process leaves behind that did a task. -/
def conclude (s : Surroundings) (r : Request) (stamp : String) (result : Except Failure Unit)
    (session : Session) : Outcome :=
  let shown := (s.console r).renderAll stamp session.history.reverse
  match result with
  | .ok () => ⟨0, shown, session⟩
  | .error failure =>
    ⟨failure.exitCode, { shown with log := shown.log ++ lastWords failure.text }, session⟩

/-- What a process leaves behind; the log has the time of day given. Settings files are watched for
so many looks, with nothing else going on meanwhile. -/
def outcome (s : Surroundings) (stamp : String) (looks : Nat) : Outcome :=
  match Request.ofArguments s.arguments with
  | .error words =>
    let failure := Failure.badArguments words
    ⟨failure.exitCode, { log := lastWords failure.text }, s.session false⟩
  | .ok request =>
    let (result, session) :=
      (request.perform (fun _ => pure ()) looks).run.run (s.session request.verbose)
    s.conclude request stamp result session

end Surroundings

end FormatChain.CommandLine

/-!
## What a request can reach

A request looks at the settings of the directories around its document and at the document itself,
and at nothing else on disk before its formatters run.
-/

namespace FormatChain

/-- The names that are left of components when every two dots take away the name before them. -/
def Path.foldedNames (components : List PathComponent) : List String :=
  let names := components.foldl
    (fun names component => match component with
      | .up => names.drop 1
      | .name chars => String.ofList chars :: names
      | _ => names) []
  names.reverse

/-- The absolute path without dots. -/
def Path.folded (p : Path) : Path := ⟨"/" ++ "/".intercalate (Path.foldedNames p.components)⟩

/-- A file's bytes on a disk, under a path without dots and links. -/
def Disk.bytesAt? (d : Disk) (p : Path) : Option (List UInt8) :=
  (d.openBytes Path.root p).toOption

/-- The files among these that became others since an earlier disk, with what is in them now;
nothing if they are gone. -/
def Disk.changesSince (d earlier : Disk) (paths : List Path) : List (Path × Option (List UInt8)) :=
  (paths.filter fun p => d.bytesAt? p != earlier.bytesAt? p).map fun p => (p, d.bytesAt? p)

namespace CommandLine

/-- The document of a task. -/
def Task.document? : Task → Option String
  | .format file _ _ => some file
  | .formatInput file _ => some file
  | .runCommand _ file => file
  | _ => none

/-- Whether a task takes the text that comes in. -/
def Request.takesInput (r : Request) : Bool :=
  match r.task with
  | .formatInput _ _ => true
  | _ => false

/-- The files that a request can look at, each once. -/
def Surroundings.reach (s : Surroundings) (r : Request) : List Path :=
  let root := (r.workspace.map fun dir => s.cwd.join ⟨dir⟩).getD s.cwd
  let document := r.task.document?.map fun file => s.cwd.join ⟨file⟩
  let around := (document.map (·.ancestors.drop 1)).getD []
  let paths := s.globalSettings.toList.map s.cwd.join ++ (root :: around).map Settings.settingsFile
    ++ document.toList
  (paths.map Path.folded).eraseDups

/-- Settings under watch, in the session in which they were loaded. -/
structure Watched where
  /-- The settings and their files. -/
  watch : Watch
  /-- The session. -/
  session : Session

/-- Starts to watch the settings of a workspace in an application of its own. -/
def Request.beginWatch (r : Request) : Attempt Watch := do
  let root ← r.root
  Action.debug s!"Workspace: {root.text}"
  Application.start
  Watch.begin root

/-- One look at the files, as they are on a disk now, and what the person sees of it. -/
def Watched.look (w : Watched) (console : Console) (stamp : String) (disk : Disk) : Watched × Shown :=
  let (watch, session) := w.watch.poll.run { w.session with disk, history := [] }
  (⟨watch, session⟩, console.renderAll stamp session.history.reverse)

end CommandLine

end FormatChain
