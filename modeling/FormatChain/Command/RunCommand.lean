import FormatChain.Chain
import FormatChain.Command.Format
import FormatChain.Formatter.Launch
import FormatChain.Settings.Keys
import FormatChain.Settings.Warned
import FormatChain.Text.Characters
import FormatChain.Workspace.Load

/-!
# The commands of the editor

The editor offers commands by their ids: some inform, and one formats.

Two commands format a document, one turns remarks for debugging on and off, and each language that
chains are set up for has a command of its own.

* `EditorCommand` : a command.
* `EditorCommand.offered` : the commands that the settings offer.
* `EditorCommand.find?` : the command of an id.
* `Command.showVersion`, `Command.showHelp`, `Command.showCommands`, `Command.showResolution` : lines
  for the person.
* `Command.toggleDebugMode` : turning remarks for debugging on or off.
* `Command.runCommand` : runs the command of an id, on a file if it needs one.
-/

namespace FormatChain

open FormatChain.Json FormatChain.Text

/-- A command. -/
inductive EditorCommand where
  /-- Formats a document. -/
  | formatDocument
  /-- Formats a document where only a part of it was selected. -/
  | formatSelection
  /-- Formats a document as if it were in a language. -/
  | formatDocumentAs (language : String)
  /-- Turns remarks for debugging on or off. -/
  | toggleDebugMode
  deriving Repr, DecidableEq

namespace EditorCommand

/-- The id of a command. -/
def id : EditorCommand → String
  | .formatDocument => Settings.programName ++ ".formatDocument"
  | .formatSelection => Settings.programName ++ ".formatSelection"
  | .formatDocumentAs language => Settings.programName ++ ".formatDocument." ++ language
  | .toggleDebugMode => Settings.programName ++ ".toggleDebugMode"

/-- What a command does, in words. -/
def description : EditorCommand → String
  | .formatDocument => "Format the document with its language's formatter chain."
  | .formatSelection => "Format the selection (formats the whole document)."
  | .formatDocumentAs language => s!"Format the document with the {language} formatter chain."
  | .toggleDebugMode => "Toggle debug output."

/-- Appends the command of a language, unless its name is blank or it is there. -/
def addLanguage (commands : List EditorCommand) (language : String) : List EditorCommand :=
  let name := trim language
  if name.isEmpty || commands.contains (.formatDocumentAs name) then commands
  else commands ++ [.formatDocumentAs name]

/-- The languages that have formatters of their own. -/
def languagesWithFormatters (settings : Settings) : List String :=
  settings.languageIds.filter fun language =>
    (Settings.languageValue? (settings.inspect Settings.Key.formatters (some language))).isSome

/-- The commands that the settings offer: for the languages that are listed, and for those that have
formatters and are not among them. -/
def offered (settings : Settings) : Noted (List EditorCommand) := do
  let listed := (← settings.readOrWarn decodeStrings Settings.Key.languages none).getD []
  let others := (languagesWithFormatters settings).filter fun language => !listed.contains language
  return (listed ++ others).foldl addLanguage [.formatDocument, .formatSelection]
    ++ [.toggleDebugMode]

/-- The command of an id among some. -/
def find? (commands : List EditorCommand) (id : String) : Option EditorCommand :=
  commands.find? fun command => command.id == id

end EditorCommand

end FormatChain

/-! ## Commands that inform -/

namespace FormatChain.Command

open FormatChain.Json FormatChain.Text

/-- Shows the version of the program. -/
def showVersion : Action Unit :=
  Action.print s!"{Settings.programName} {Settings.programVersion}"

/-- Shows a text of help. -/
def showHelp (text : String) : Action Unit := Action.print text

/-- The lines that list commands, the descriptions below each other. -/
def commandLines (commands : List EditorCommand) : List String :=
  let width := (commands.map fun command => command.id.utf8ByteSize).foldl max 0
  commands.map fun command => padEnd width command.id ++ "  " ++ command.description

/-- Shows the commands that the settings offer. -/
def showCommands (root : Path) : Attempt Unit := do
  let (settings, _) ← Workspace.loadSettings root none
  let commands ← Attempt.tell (EditorCommand.offered settings)
  (commandLines commands).forM fun line => Action.print line

/-- Shows how documents of a language are formatted. -/
def showResolution (root : Path) (language : String) : Attempt Unit := do
  let (settings, _) ← Workspace.loadSettings root none
  let chain ← Attempt.tell (resolveChain settings language)
  let options ← Attempt.tell (resolveRunOptions settings language)
  let family ← Attempt.tell (family? settings language)
  let onSave := (settings.read decodeBool Settings.Key.formatOnSave (some language)).toOption.join
  Action.print s!"language: {language}"
  Action.print ("family: " ++ family.getD "(none)")
  Action.print s!"enabled: {← Attempt.tell (isLanguageEnabled settings language)}"
  Action.print s!"chain: {chain.text}"
  Action.print s!"formatterDelay: {options.delay}ms"
  Action.print s!"saveAfterEachFormatter: {options.saveAfterEach}"
  Action.print s!"saveAfterChain: {options.saveAfterChain}"
  Action.print
    s!"activation: {options.activation.attempts} attempts every {options.activation.interval}ms"
  Action.print s!"formatOnSave: {onSave.getD false}"
  let ids := (← Attempt.tell (Registry.ofSettings settings)).names
  Action.print ("formatterCommands: " ++ if ids.isEmpty then "(none)" else joined ", " ids)

/-- Turns remarks for debugging on or off, and says so at the narrowest scope of the settings: the
settings after it. -/
def toggleDebugMode (settings : Settings) : Action Settings := do
  let enabled := !(← get).verbose
  Action.setVerbose enabled
  let mut after := settings
  match settings.narrowestScope? with
  | none => pure ()
  | some scope =>
    match settings.setRaw scope Settings.Key.debug none (some (.bool enabled)) with
    | .ok settings => after := settings
    | .error e => Action.warn s!"Could not update {Settings.Key.debug}. {e.message}"
  let message := if enabled then "Debug mode enabled." else "Debug mode disabled."
  Action.log message
  Action.notify .info message
  return after

end FormatChain.Command

/-! ## Running a command of the editor -/

namespace FormatChain.Command

/-- Runs a command that formats, on a file. -/
def runFormatting (bench : Workbench) (file : String) : EditorCommand → Attempt Unit
  | .formatDocument => formatFile bench file none
  | .formatSelection => formatSelection bench file none none
  | .formatDocumentAs language => formatFile bench file (some language)
  | .toggleDebugMode => pure ()

/-- Runs the command of an id. -/
def runCommand (bench : Workbench) (id : String) (file : Option String) : Attempt Unit := do
  let (settings, _) ← Workspace.loadSettings bench.root none
  let commands ← Attempt.tell (EditorCommand.offered settings)
  match EditorCommand.find? commands id with
  | none => throw (.unknownCommand id)
  | some command =>
    Action.debug s!"Running command {id}"
    match command, file with
    | .toggleDebugMode, _ =>
      let _ ← toggleDebugMode settings
    | _, none => Action.notify .info "There is no document to format."
    | command, some file => runFormatting bench file command

end FormatChain.Command
