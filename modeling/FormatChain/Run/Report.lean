import FormatChain.Process.Outcome
import FormatChain.Settings.Layered
import FormatChain.Text.Search

/-!
# Failures and reports

Formatting fails in a number of ways. A run reports what each of its steps came to.

* `Failure` : the causes.
* `Failure.messages`, `Failure.text` : their wording, in parts and in one.
* `Failure.exitCode` : what the program tells the one who started it.
* `RunReport` : the one edit that a run makes of its document, what each step did, and how the run
  ended.
-/

/-!
## Failures

What can go wrong when files, settings, formatters and commands are used, as causes.  A cause may
wrap another one; its wording lists the outer summary before the inner one.
-/

namespace FormatChain

open FormatChain.Text

/-- Why something was not done. -/
inductive Failure where
  /-- There is no such file in memory. -/
  | fileMissing (path : Path)
  /-- The file in memory cannot be read. -/
  | fileUnreadable (path : Path)
  /-- The file in memory must not be written. -/
  | fileReadOnly (path : Path)
  /-- The operating system refuses to read the file. -/
  | readRefused (path : Path) (cause : SystemError)
  /-- The operating system refuses to write the file. -/
  | writeRefused (path : Path) (cause : SystemError)
  /-- No text came in, or it was taken before. -/
  | noInput
  /-- A setting has the wrong shape. -/
  | invalidSetting (cause : Settings.InvalidSetting)
  /-- A setting cannot be written. -/
  | settingRefused (cause : Settings.WriteError)
  /-- A settings file is no layer. -/
  | settingsMalformed (scope : Settings.Scope) (path : Path) (cause : Settings.ParseError)
  /-- A settings file was not read. -/
  | settingsUnreadable (scope : Settings.Scope) (path : Path) (cause : Failure)
  /-- No formatter is active for the language. -/
  | noActiveFormatter (language : String)
  /-- The active formatter of the language is this program. -/
  | reservedFormatter (language : String)
  /-- There is no formatter of the id. -/
  | formatterMissing (id : String)
  /-- A formatter gave up with these words. -/
  | formatterFailed (words : List String)
  /-- The command of a formatter did not format. -/
  | commandFailed (id : String) (cause : CommandFailure)
  /-- A run ended early, at a formatter or after the chain. -/
  | runStopped (path : Path) (formatter : Option String) (cause : Failure)
  /-- The languages have conflicts. -/
  | conflictsFound (languages : List String)
  /-- There is no command of the id. -/
  | unknownCommand (id : String)
  /-- The arguments make no sense, for the reason in these words. -/
  | badArguments (words : String)

namespace Failure

/-- Where a run ended. -/
def stopText : Option String → String
  | some id => s!" at '{id}'"
  | none => ""

/-- The wording of a cause, the summary first. -/
def messages : Failure → List String
  | .fileMissing path => [s!"Could not find file at path {path.text}"]
  | .fileUnreadable path => [s!"Could not read file at path {path.text}"]
  | .fileReadOnly path => [s!"File is read-only: {path.text}"]
  | .readRefused path cause => [s!"Error reading file: {path.text}", cause.message]
  | .writeRefused path cause => [s!"Error writing file: {path.text}", cause.message]
  | .noInput => ["No stdin was provided."]
  | .invalidSetting cause => [cause.summary, cause.mismatch.message]
  | .settingRefused cause => [cause.message]
  | .settingsMalformed scope path cause =>
    [s!"Error loading {scope.name} settings at {path.text}. {cause.message}"]
  | .settingsUnreadable scope path cause =>
    [s!"Error loading {scope.name} settings at {path.text}. " ++ joined ": " cause.messages]
  | .noActiveFormatter language => [s!"No formatter is active for '{language}'."]
  | .reservedFormatter language =>
    [s!"The active formatter for '{language}' is this orchestrator."]
  | .formatterMissing id => [s!"Formatter '{id}' is not available."]
  | .formatterFailed words => words
  | .commandFailed id cause => cause.messages id
  | .runStopped path formatter cause =>
    [s!"Formatting {path.text} stopped{stopText formatter}. " ++ joined ": " cause.messages]
  | .conflictsFound languages =>
    ["Found formatting conflicts for: " ++ joined ", " languages]
  | .unknownCommand id =>
    ["Unknown command '" ++ id
      ++ "'. Run \x60chainfmt commands\x60 to see the available commands."]
  | .badArguments words => [words]

/-- The wording of a cause in one. -/
def text (f : Failure) : String := joined ": " f.messages

/-- The summary of a cause. -/
def summary (f : Failure) : String := f.messages.headD ""

/-- The number with which the program ends because of a cause. -/
def exitCode : Failure → Nat
  | .badArguments _ => 10
  | .settingsMalformed .. => 11
  | .settingsUnreadable .. => 11
  | .runStopped .. => 12
  | .conflictsFound _ => 20
  | _ => 1

end Failure

end FormatChain

/-! ## Reports of runs -/

namespace FormatChain

/-- Why a run did nothing. -/
inductive SkipReason where
  /-- Another run is going on. -/
  | alreadyRunning
  /-- The document has no unsaved changes. -/
  | notDirty
  /-- There are no formatters. -/
  | emptyChain
  deriving Repr, DecidableEq

/-- What a run makes of its document. -/
inductive EditResult where
  /-- The run did nothing. -/
  | skipped (reason : SkipReason)
  /-- The text is the same as before. -/
  | noChanges
  /-- The whole text is to be replaced. -/
  | replace (text : String)
  deriving Repr, DecidableEq

/-- What one formatter of a chain did. -/
structure StepReport where
  /-- The id of the formatter. -/
  formatter : String
  /-- Whether it was seen to be the active one. -/
  confirmed : Bool
  /-- Whether the text changed. -/
  changed : Bool
  /-- Why it did not format, if it did not. -/
  failure : Option Failure

/-- Why a run ended early. -/
structure RunFailure where
  /-- The formatter at which it ended, if it was at one. -/
  formatter : Option String
  /-- The reason. -/
  cause : Failure

/-- What a run did. -/
structure RunReport where
  /-- What the run makes of its document. -/
  edit : EditResult
  /-- The formatters that ran, in order. -/
  steps : List StepReport
  /-- Whether the run was cancelled between two formatters. -/
  cancelled : Bool
  /-- Why the run ended early, if it did. -/
  failure : Option RunFailure

namespace RunReport

/-- The report of a run that did nothing. -/
def skipped (reason : SkipReason) : RunReport := ⟨.skipped reason, [], false, none⟩

/-- The formatters that did not format, with the reason. -/
def failedSteps (r : RunReport) : List (String × Failure) :=
  r.steps.filterMap fun step => step.failure.map (step.formatter, ·)

end RunReport

end FormatChain
