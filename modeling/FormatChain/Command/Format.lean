import FormatChain.Chain
import FormatChain.Formatter.Basic
import FormatChain.Language
import FormatChain.Run.Executor
import FormatChain.Workspace.Load

/-!
# Formatting a file

The files of a workspace are formatted by the chains of their languages, as a whole or in part.

* `Command.TextRange` : a part of a text.
* `Workbench` : the workspace, the formatters that settings bring along, and what goes on while a
  command sleeps.
* `Command.formatFile`, `Command.formatSelection` : formatting a file.
* `Command.formatInput` : formatting the text that comes in.
* `Command.announce` : telling how a run went.
-/

/-! ## Ranges -/

namespace FormatChain.Command

/-- A range of bytes in a text. -/
structure TextRange where
  /-- Where it starts. -/
  start : Nat
  /-- Where it ends. -/
  stop : Nat
  deriving Repr, DecidableEq

end FormatChain.Command

/-! ## What commands work with -/

namespace FormatChain

/-- What commands work with. -/
structure Workbench where
  /-- The directory of the workspace. -/
  root : Path
  /-- The formatters that settings bring along. -/
  formatters : Settings → Action Registry
  /-- What goes on in the session while a command sleeps for so many milliseconds. -/
  meanwhile : Nat → Action Unit

end FormatChain

/-!
## Formatting a file

A file, or the text that comes in, is the unsaved text of a new document.  The chain of its language
runs on it, the result is written back or handed out, and the person gets to know how that went.
-/

namespace FormatChain.Command

/-! ### Telling how a run went -/

/-- The message that sums a run up, if it needs one. -/
def outcomeMessage (path : Path) : EditResult → Option String
  | .skipped .alreadyRunning => none
  | .skipped .emptyChain => none
  | .skipped .notDirty => some s!"Nothing to format in {path.text}."
  | .noChanges => some s!"No changes to {path.text}."
  | .replace _ => some s!"Formatted {path.text}."

/-- Remarks on one formatter of a run. -/
def remarkOnStep (step : StepReport) : Action Unit :=
  let changed := if step.changed then "changed" else "unchanged"
  let confirmed := if step.confirmed then "" else " (activation unconfirmed)"
  Action.debug s!"{step.formatter}: {changed}{confirmed}"

/-- Tells the person how a run on the file went. It fails if the run ended early. -/
def announce (path : Path) (report : RunReport) : Attempt Unit := do
  report.steps.forM fun step => remarkOnStep step
  report.failedSteps.forM fun (id, failure) =>
    Action.notify .error s!"Formatter '{id}' failed. {failure.text}"
  if report.cancelled then
    Action.notify .warning s!"Formatting {path.text} was cancelled."
  match report.failure with
  | some failure =>
    let cause := Failure.runStopped path failure.formatter failure.cause
    Action.notify .error cause.text
    throw cause
  | none =>
    match outcomeMessage path report.edit with
    | some message => Action.notify .info message
    | none => pure ()

/-! ### Documents -/

/-- The language of a file: the given one, or else the one of its name. The person is told if there
is none. -/
def languageOf (settings : Settings) (path : Path) (given : Option String) :
    Action (Option String) := do
  match given with
  | some language => return some language
  | none =>
    let language ← Action.tell (detectLanguage settings path)
    if language.isNone then
      Action.notify .info (s!"Could not determine the language of {path.text}. "
        ++ "Provide it with --language.")
    return language

/-- Opens a document: its number. -/
def openDocument (d : Document) : Action Nat := do
  let n := (← get).documents.length
  modify fun s => s.putDocument n d
  return n

/-- Closes the documents from a number on. -/
def closeDocuments (n : Nat) : Action Unit :=
  modify fun s => { s with documents := s.documents.take n }

/-- Does something with a document that is closed after it in any case. -/
def withDocument (d : Document) (work : Nat → Attempt Unit) : Attempt Unit :=
  ExceptT.mk do
    let n ← openDocument d
    let result ← (work n).run
    closeDocuments n
    return result

/-- Takes a document through the chain of its language. -/
def runLanguageChain (host : Host) (n : Nat) : Action RunReport := do
  let settings ← Action.settings
  let language := (← Action.document n).language
  let chain ← Action.tell (resolveChain settings language)
  let options ← Action.tell (resolveRunOptions settings language)
  host.run n chain options

/-! ### Commands -/

/-- Runs the chain on the document of a number, writes the file if that is still to be done, and
tells how it went. -/
def formatDocument (host : Host) (n : Nat) : Attempt Unit := do
  let report ← runLanguageChain host n
  let d ← Action.document n
  match report.edit with
  | .replace _ => if d.isDirty then Host.saveDocument n
  | _ => pure ()
  announce d.path report

/-- Formats a file. -/
def formatFile (bench : Workbench) (file : String) (language : Option String) :
    Attempt Unit := do
  let path ← Workspace.resolvePath file
  let text ← Attempt.readText path
  let (settings, _) ← Workspace.loadSettings bench.root (some path)
  match ← languageOf settings path language with
  | none => pure ()
  | some language =>
    Action.setSettings settings
    let formatters ← bench.formatters settings
    withDocument ⟨path, language, text, none, .disk, 1⟩
      (formatDocument ⟨formatters, bench.meanwhile⟩)

/-- Formats a whole file although only a part of it was selected. -/
def formatSelection (bench : Workbench) (file : String) (language : Option String)
    (range : Option TextRange) : Attempt Unit := do
  match range with
  | some range => Action.debug s!"Ignoring selection {range.start}:{range.stop}."
  | none => pure ()
  Action.notify .info "Range formatting is not supported. Formatting the whole document."
  formatFile bench file language

/-- Runs the chain on the document of a number, hands its text out, and tells how it went. -/
def formatAndOutput (host : Host) (n : Nat) : Attempt Unit := do
  let report ← runLanguageChain host n
  let d ← Action.document n
  Action.record (.output d.text)
  announce d.path report

/-- Formats the text that comes in as if it were a file's. Formatters that work on disk are left
out. -/
def formatInput (bench : Workbench) (file : String) (language : Option String) :
    Attempt Unit := do
  let path ← Workspace.resolvePath file
  let text ← Attempt.takeInput
  let (settings, _) ← Workspace.loadSettings bench.root (some path)
  match ← languageOf settings path language with
  | none => Action.record (.output text)
  | some language =>
    Action.setSettings settings
    let (removed, formatters) := (← bench.formatters settings).withoutDisk
    removed.forM fun id =>
      Action.warn
        s!"Formatter '{id}' formats files on disk and can't be used when formatting stdin."
    withDocument ⟨path, language, text, none, .memory, 1⟩
      (formatAndOutput ⟨formatters, bench.meanwhile⟩)

end FormatChain.Command
