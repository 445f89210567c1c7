import FormatChain.Disk.Bare
import FormatChain.Process.Bytes
import FormatChain.Process.Escape
import FormatChain.Process.Outcome

/-!
# Commands at work

A command works in a directory of a disk.  It finds bytes that come in, writes bytes and complaints,
and lets time pass.

* `World`, `Running` : what a command finds and leaves, and doing something to it.
* `Job`, `Program` : what a command is told, and what it does.
* `Running.write`, `Running.complain` : writing something.
* `Running.takeInput`, `Running.readFile` : getting something.
-/

namespace FormatChain.Process

/-- Where a command writes. -/
inductive Stream where
  /-- What it was asked for. -/
  | output
  /-- What went wrong. -/
  | complaints
  deriving Repr, DecidableEq, Inhabited

/-- Bytes that were written. -/
structure Piece where
  /-- Where they were written. -/
  stream : Stream
  /-- The bytes. -/
  bytes : Bytes
  /-- When they were written, in milliseconds that passed. -/
  time : Nat
  /-- The number of the process that wrote them, if it is one that nobody waits for. -/
  writer : Nat
  deriving Inhabited

/-- Pieces, the latest first, as one in the order in which they were written. -/
def bytesInOrder (pieces : List Piece) : Bytes :=
  (pieces.reverse.mergeSort fun a b => a.time ≤ b.time).flatMap (·.bytes)

/-- What a command finds, and what it leaves. -/
structure World where
  /-- The disk. -/
  disk : Disk := {}
  /-- What comes in. -/
  input : Bytes := []
  /-- Why nothing can come in, if it cannot. -/
  inputFault : Option SystemError := none
  /-- What was written, the latest first. -/
  written : List Piece := []
  /-- The milliseconds that passed. -/
  slept : Nat := 0
  /-- When, in milliseconds that passed, the last command ends that nobody waits for. -/
  lingering : Nat := 0
  /-- Whether a command went on and on. -/
  endless : Bool := false
  /-- The number of the process at work, if it is one that nobody waits for. -/
  writer : Nat := 0
  deriving Inhabited

/-- Doing something to the world. -/
abbrev Running := StateM World

/-- What a command is told. -/
structure Job where
  /-- The name under which it was called. -/
  name : Bytes
  /-- The arguments. -/
  args : List Bytes := []
  /-- The directory that it works in. -/
  cwd : Path := Path.root
  /-- The variables. -/
  vars : List (Bytes × Bytes) := []
  deriving Inhabited

/-- What a command does. -/
abbrev Program := Job → Running ExitStatus

/-- How a program at a path is started, or why it is not. -/
abbrev Starter := Bytes → Job → Running (Except SystemError ExitStatus)

/-- What was written to a stream. -/
def World.writtenTo (w : World) (stream : Stream) : Bytes :=
  bytesInOrder (w.written.filter (·.stream == stream))

/-- Bytes as a path. -/
def pathOf (bytes : Bytes) : Path := ⟨textOf bytes⟩

/-- All is well. -/
def success : ExitStatus := .code 0

/-- All is well, or something is wrong. -/
def statusOf (well : Bool) : ExitStatus := .code (if well then 0 else 1)

namespace Running

/-- Writes bytes to a stream. -/
def put (stream : Stream) (bytes : Bytes) : Running Unit :=
  if bytes.isEmpty then pure ()
  else modify fun w => { w with written := ⟨stream, bytes, w.slept, w.writer⟩ :: w.written }

/-- Writes bytes. -/
def write (bytes : Bytes) : Running Unit := put .output bytes

/-- Writes a line. -/
def writeLine (bytes : Bytes) : Running Unit := put .output (bytes ++ ['\n'])

/-- Complains with a line of its own. -/
def complain (text : String) : Running Unit := put .complaints (bytesOf (text ++ "\n"))

/-- Takes all that comes in. -/
def takeInput : Running Bytes := do
  let w ← get
  set { w with input := [] }
  return w.input

/-- Lets milliseconds pass. -/
def sleep (milliseconds : Nat) : Running Unit :=
  modify fun w => { w with slept := w.slept + milliseconds }

/-- Goes on and on. -/
def neverEnd : Running Unit := modify fun w => { w with endless := true }

/-- Does something and keeps what it writes from being written; complaints are passed on. -/
def captured {α : Type} (action : Running α) : Running (α × Bytes) := do
  let before := (← get).written
  modify fun w => { w with written := [] }
  let result ← action
  let w ← get
  let complaints := w.written.filter (·.stream == .complaints)
  set { w with written := complaints ++ before }
  return (result, w.writtenTo .output)

/-- How many bytes of what never ends are enough for anyone who reads it. -/
def endlessSupply : Nat := 262144

/-- The names that stand for what comes in. -/
def inputNames : List Bytes := ["-".toList, "/dev/stdin".toList, "/dev/fd/0".toList]

/-- The bytes of a file, or why they cannot be read. -/
def readFile (cwd : Path) (name : Bytes) : Running (Except SystemError Bytes) := do
  if name = "/dev/stdin".toList || name = "/dev/fd/0".toList then return .ok (← takeInput)
  let disk := (← get).disk
  match disk.locate cwd (pathOf name) with
  | .error e => return .error e
  | .ok place =>
    if place.same ⟨"/dev/tty"⟩ then return .error .noDevice
    else if place.same ⟨"/dev/zero"⟩ || place.same ⟨"/dev/full"⟩ then
      return .ok (List.replicate endlessSupply '\x00')
    else return (disk.openBytes cwd (pathOf name)).map ofNumbers

/-- Puts bytes into a file, or finds out why that is refused. -/
def writeFile (cwd : Path) (name : Bytes) (bytes : Bytes) : Running (Except SystemError Unit) := do
  if name = "/dev/stdout".toList then
    write bytes
    return .ok ()
  else if name = "/dev/stderr".toList then
    put .complaints bytes
    return .ok ()
  else
    match (← get).disk.overwriteBytes cwd (pathOf name) (toNumbers bytes) with
    | .ok disk =>
      modify fun w => { w with disk }
      return .ok ()
    | .error e => return .error e

end Running

/-! ## Starting programs -/

/-- Where programs are looked for if nothing says so. -/
def usualPath : Bytes := "/bin:/usr/bin".toList

/-- The shell that runs files that are no programs. -/
def scriptShell : Bytes := "/bin/sh".toList

/-- Starts the program at a path. A file that is no program is a script if scripts are wanted. -/
def startPath (start : Starter) (scripts : Bool) (j : Job) (path : Bytes) :
    Running (Except SystemError ExitStatus) := do
  match ← start path j with
  | .error .noProgram =>
    if scripts then start scriptShell { j with name := scriptShell, args := path :: j.args }
    else return .error .noProgram
  | result => return result

/-- Starts the first program of paths that can be started. -/
def startFirst (start : Starter) (scripts : Bool) (refused : SystemError) (j : Job) :
    List Bytes → Running (Except SystemError ExitStatus)
  | [] => return .error refused
  | path :: rest => do
    match ← startPath start scripts j path with
    | .error .permissionDenied => startFirst start scripts .permissionDenied j rest
    | .error .notFound => startFirst start scripts refused j rest
    | .error .notADirectory => startFirst start scripts refused j rest
    | result => return result

/-- Starts the program of a name, which is looked for unless it has a slash. -/
def startNamed (start : Starter) (scripts : Bool) (j : Job) :
    Running (Except SystemError ExitStatus) := do
  if j.name.isEmpty then return .error .notFound
  else if j.name.contains '/' then startPath start scripts j j.name
  else
    let given := (j.vars.find? fun entry => entry.1 = "PATH".toList).map (·.2)
    startFirst start scripts .notFound j ((splitAtByte ':' (given.getD usualPath)).map fun dir =>
      if dir.isEmpty then j.name else dir ++ '/' :: j.name)

namespace Job

/-- The name of a command, as its complaints show it. -/
def shownName (j : Job) : String := textOf j.name

/-- Complains in the name of the command. -/
def complain (j : Job) (text : String) : Running Unit :=
  Running.complain s!"{j.shownName}: {text}"

/-- Complains in the name of the command and ends with a number. -/
def fail (j : Job) (n : Nat) (text : String) : Running ExitStatus := do
  j.complain text
  return .code n

/-- The line with which a command points to its help. -/
def hint (j : Job) : String := s!"Try '{j.shownName} --help' for more information."

/-- Complains about the arguments, points to the help, and ends with a number. -/
def misused (j : Job) (n : Nat) (text : String) : Running ExitStatus := do
  j.complain text
  Running.complain j.hint
  return .code n

/-- The value of a variable. -/
def setting? (j : Job) (name : Bytes) : Option Bytes :=
  (j.vars.find? fun entry => entry.1 = name).map (·.2)

/-- The bytes of a named file, a dash standing for what comes in. The command complains if the file
cannot be read. -/
def readOperand (j : Job) (name : Bytes) : Running (Option Bytes) := do
  let found ← if name = ['-'] then do
      match (← get).inputFault with
      | some e => pure (.error e)
      | none => pure (.ok (← Running.takeInput))
    else Running.readFile j.cwd name
  match found with
  | .ok bytes => return some bytes
  | .error e =>
    j.complain s!"{nameShown name}: {e.words}"
    return none

/-- The bytes of the named files, or what comes in if none is named, and whether all of them could be
read. -/
def readAll (j : Job) (files : List Bytes) : Running (List Bytes × Bool) := do
  let files := if files.isEmpty then [['-']] else files
  let found ← files.mapM j.readOperand
  return (found.filterMap id, found.all Option.isSome)

/-- Changes what comes in, or the named files one by one, and writes it. -/
def change (j : Job) (files : List Bytes) (f : Bytes → Bytes) : Running ExitStatus := do
  let mut well := true
  for file in if files.isEmpty then [['-']] else files do
    match ← j.readOperand file with
    | some bytes => Running.write (f bytes)
    | none => well := false
  return statusOf well

end Job

end FormatChain.Process
