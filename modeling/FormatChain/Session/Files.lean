import FormatChain.Disk.Machine
import FormatChain.Session.Basic

/-!
# Files of a session

Files kept in memory are found by their path as it is.  Files of the operating system are found as
it finds them, and their use is remarked on.

* `Session.pathExists`, `Session.isReadOnly` : what is there.
* `Attempt.readText`, `Attempt.writeText` : using a file.
* `Attempt.takeInput` : the text that comes in, once.
-/

namespace FormatChain

namespace Session

/-- Whether the files are only kept in memory. -/
def inMemory (s : Session) : Bool := s.outside.isSome

/-- Whether something is under a path. -/
def pathExists (s : Session) (p : Path) : Bool :=
  if s.inMemory then s.disk.hasFile p else s.disk.pathExists s.cwd p

/-- Whether a file is under the path and must not be written. -/
def isReadOnly (s : Session) (p : Path) : Bool :=
  if s.inMemory then s.disk.hasFile p && s.disk.isReadOnly p else s.disk.showsReadOnly s.cwd p

/-- The text of a file kept in memory. -/
def readMemory (s : Session) (p : Path) : Except Failure String :=
  match s.disk.text? p with
  | none => .error (.fileMissing p)
  | some text => if s.disk.isUnreadable p then .error (.fileUnreadable p) else .ok text

/-- The text of a file of the operating system. -/
def readMachine (s : Session) (p : Path) : Except Failure String :=
  (s.disk.openText s.cwd p).mapError (.readRefused p)

/-- The disk after a text was written to a file kept in memory. -/
def writeMemory (s : Session) (p : Path) (text : String) : Except Failure Disk :=
  if s.isReadOnly p then .error (.fileReadOnly p) else .ok (s.disk.put p text)

/-- The disk after a text was written to a file of the operating system. -/
def writeMachine (s : Session) (p : Path) (text : String) : Except Failure Disk :=
  (s.disk.overwrite s.cwd p text).mapError (.writeRefused p)

end Session

namespace Attempt

/-- The text of a file. -/
def readText (p : Path) : Attempt String := do
  let s ← get
  if s.inMemory then
    ExceptT.mk (pure (s.readMemory p))
  else
    Action.debug s!"Reading file: {p.text}"
    ExceptT.mk (pure (s.readMachine p))

/-- Writes a text to a file. -/
def writeText (p : Path) (text : String) : Attempt Unit := do
  let s ← get
  unless s.inMemory do
    Action.debug s!"Writing file: {p.text}"
  match if s.inMemory then s.writeMemory p text else s.writeMachine p text with
  | .ok disk =>
    modify fun s => { s with disk }
    Action.record (.wrote p text)
  | .error e => throw e

/-- Takes the text that comes in. -/
def takeInput : Attempt String := do
  match (← get).input with
  | some text =>
    modify fun s => { s with input := none }
    return text
  | none => throw .noInput

end Attempt

end FormatChain
