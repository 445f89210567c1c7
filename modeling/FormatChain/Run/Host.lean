import FormatChain.Formatter.Basic
import FormatChain.Session.Files

/-!
# The editor

The editor formats a document with the formatter that is active for its language, and saves it.
While the program sleeps, other things may go on in the session.

* `Host` : the formatters at hand, and what goes on meanwhile.
* `Host.sleep` : letting time pass.
* `Host.formatDocument`, `Host.saveDocument` : the two things that an editor does to a document.
-/

namespace FormatChain

open FormatChain.Json

/-- An editor. -/
structure Host where
  /-- The formatters at hand. -/
  formatters : Registry
  /-- What goes on in the session while the program sleeps for so many milliseconds. -/
  meanwhile : Nat → Action Unit

namespace Host

/-- Lets so many milliseconds pass. -/
def sleep (host : Host) (millis : Nat) : Action Unit := do
  Action.record (.slept millis)
  host.meanwhile millis

/-- The id of the formatter that is active for a language. -/
def activeFormatter (settings : Settings) (language : String) : Except Failure String :=
  match settings.read decodeString Settings.Key.defaultFormatter (some language) with
  | .error e => .error (.invalidSetting e)
  | .ok none => .error (.noActiveFormatter language)
  | .ok (some id) => if isReservedId id then .error (.reservedFormatter language) else .ok id

/-- The formatter that is active for a language. -/
def chooseFormatter (host : Host) (settings : Settings) (language : String) :
    Except Failure Formatter := do
  let id ← activeFormatter settings language
  match host.formatters.get? id with
  | some formatter => return formatter
  | none => throw (.formatterMissing id)

/-- Warns if a formatter that takes the text from the file will not see the document's text. -/
def warnAboutUnsaved (formatter : Formatter) (d : Document) : Action Unit := do
  if formatter.onDisk then
    let seen ← (Attempt.readText d.path).run
    let current := match seen with
      | .ok text => text == d.text
      | .error _ => false
    unless current do
      Action.warn (s!"Formatter '{formatter.id}' reads {d.path.text} from disk, but it has unsaved "
        ++ s!"changes. Enable {Settings.Key.saveAfterEachFormatter} for it to see them.")

/-- Takes over what a formatter made of a document. -/
def takeOutput (n : Nat) : FormatOutput → Attempt Unit
  | .unchanged => pure ()
  | .text text => Action.changeDocument n (·.setText text)
  | .fileUpdated => do
    let text ← Attempt.readText (← Action.document n).path
    Action.changeDocument n fun d => (d.setText text).markSaved

/-- Formats the document of a number with the active formatter of its language. -/
def formatDocument (host : Host) (n : Nat) : Attempt Unit := do
  let d ← Action.document n
  let formatter ← ExceptT.mk (pure (host.chooseFormatter (← Action.settings) d.language))
  warnAboutUnsaved formatter d
  let output ← formatter.format ⟨d.path, d.language, d.text⟩
  takeOutput n output
  if output = .unchanged then
    Action.debug s!"Formatter '{formatter.id}' made no changes."
  else
    Action.debug s!"{d.path.text} is at version {(← Action.document n).version}."

/-- Saves the document of a number. -/
def saveDocument (n : Nat) : Attempt Unit := do
  let d ← Action.document n
  if d.target = .disk then
    Attempt.writeText d.path d.text
  Action.changeDocument n Document.markSaved
  Action.debug s!"Saved {d.path.text}"

end Host

end FormatChain
