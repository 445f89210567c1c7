import FormatChain.Formatter.Basic
import FormatChain.Formatter.Command
import FormatChain.Process.Programs
import FormatChain.Session.Files

/-!
# Formatters that run commands

A formatter behind which there is a command gives it the text, or lets it rewrite the file, and takes
over what it makes of it.

* `FormatterCommand.launch` : running the command for a request.
* `FormatterCommand.judge` : what to make of what it left.
* `Registry.ofSettings` : the formatters whose commands the settings name.
-/

namespace FormatChain

open FormatChain.Json FormatChain.Process FormatChain.Text

namespace FormatterCommand

/-- How many bytes a pipe takes although nobody reads from it. -/
def pipeCapacity : Nat := 65536

/-- The directory in which a command works: the one it is to work in if that is there. -/
def workingDirectory (c : FormatterCommand) (disk : Disk) (cwd file : Path) : Path :=
  match (c.directoryFor file).map (disk.locateDirectory cwd) with
  | some (.ok place) => place
  | _ => cwd

/-- Whether the texts that a command is started with can be handed to the system. -/
def isSound (c : FormatterCommand) (file : Path) : Bool :=
  (c.command :: c.argsFor file).all fun text => !text.toList.contains '\x00'

/-- What the command is told for a request. -/
def jobFor (c : FormatterCommand) (disk : Disk) (cwd : Path) (vars : List (String × String))
    (request : FormatRequest) : Job where
  name := bytesOf c.command
  args := (c.argsFor request.path).map bytesOf
  cwd := c.workingDirectory disk cwd request.path
  vars := vars.map fun (name, value) => (bytesOf name, bytesOf value)

/-- How the command ends and what it leaves for a request, or why it cannot be started. -/
def launch (c : FormatterCommand) (disk : Disk) (cwd : Path) (vars : List (String × String))
    (request : FormatRequest) : Except SystemError (ExitStatus × World) :=
  if c.isSound request.path then
    let input := if c.takesText then bytesOf request.text else []
    let (result, world) :=
      (startNamed starter false (c.jobFor disk cwd vars request)).run { disk, input }
    result.map fun status => (status, world)
  else .error .nulInText

/-- What to make of how the command ended and of what it left for a request. -/
def judge (c : FormatterCommand) (request : FormatRequest) (status : ExitStatus) (world : World) :
    Except CommandFailure FormatOutput := do
  let limit := c.timeout.getD defaultTimeout
  if world.endless || limit ≤ max world.slept world.lingering then throw (.timedOut limit)
  if !status.isSuccess then
    let words := textOf (world.writtenTo .complaints)
    throw (.exited status (if (trim words).isEmpty then "" else "\n" ++ trimEnd words))
  if pipeCapacity < world.input.length then throw (.textRefused .brokenPipe)
  if !c.takesText then return .fileUpdated
  match decodeUtf8 (toNumbers (world.writtenTo .output)) with
  | .error fault => throw (.outputNotText fault)
  | .ok text => return if text = request.text then .unchanged else .text text

/-- Formats with the command. It works on the disk of the session, or on the one outside if the
files are only kept in memory. -/
def format (c : FormatterCommand) (id : String) (request : FormatRequest) :
    Attempt FormatOutput := do
  let s ← get
  match c.launch (s.outside.getD s.disk) s.cwd s.vars request with
  | .error e => throw (.commandFailed id (.start c.command e))
  | .ok (status, world) =>
    modify fun s =>
      if s.inMemory then { s with outside := some world.disk } else { s with disk := world.disk }
    ExceptT.mk (pure ((c.judge request status world).mapError (.commandFailed id)))

/-- The formatter behind which there is the command. -/
def toFormatter (c : FormatterCommand) (id : String) : Formatter :=
  ⟨id, !c.takesText, c.format id⟩

end FormatterCommand

/-- The commands that the settings name, by the ids of their formatters. -/
def formatterCommands (settings : Settings) :
    Except Settings.InvalidSetting (OrderedMap FormatterCommand) :=
  (settings.read (decodeMap FormatterCommand.decode) Settings.Key.formatterCommands none).map
    (·.getD .empty)

namespace Registry

/-- Adds the formatter of a command, unless its id is reserved. -/
def addCommand (r : Registry) (id : String) (c : FormatterCommand) : Noted Registry :=
  if isReservedId id then
    ⟨r, [.warn s!"Ignoring formatter command with reserved id '{id}'."]⟩
  else ⟨r.add (c.toFormatter id), [.debug s!"Registered formatter '{id}' ({c.command})."]⟩

/-- The formatters whose commands the settings name. -/
def ofSettings (settings : Settings) : Noted Registry :=
  match formatterCommands settings with
  | .error e => ⟨.empty, [.warn e.message]⟩
  | .ok commands =>
    commands.entries.foldlM (fun r (id, command) => addCommand r id command) .empty

end Registry

end FormatChain
