import FormatChain.Disk.Basic
import FormatChain.Document
import FormatChain.Guard
import FormatChain.Session.Event

/-!
# Sessions

A session is all that goes on while the program works: files, settings, documents, and what happened
so far.  What the program does is an action on it; an attempt is an action that may fail, and what
it did before it failed stays done.

* `Session`, `App` : what goes on.
* `Action`, `Attempt` : doing something.
* `Action.debug`, `Action.note`, `Action.tell` : saying something. Remarks for debugging are only
  made while debugging.
* `Session.document`, `Session.putDocument` : the documents by number.
-/

namespace FormatChain

/-- What lasts from one command of an application to the next. -/
structure App where
  /-- Keeps runs from overlapping. -/
  guard : Guard := {}
  /-- The languages that were found to conflict. -/
  conflicted : Conflict.Record := .empty
  /-- The settings of the editor that formats. -/
  settings : Settings := {}
  deriving Inhabited

/-- All that goes on. -/
structure Session where
  /-- The files. -/
  disk : Disk := {}
  /-- The disk that commands work on, if the files are only kept in memory. -/
  outside : Option Disk := none
  /-- The working directory. -/
  cwd : Path := ⟨"/"⟩
  /-- The variables that commands find. -/
  vars : List (String × String) := []
  /-- The file of the global settings, if there is a place for one. -/
  globalSettings : Option Path := none
  /-- The text that comes in, until it is taken. -/
  input : Option String := none
  /-- Whether remarks for debugging are made. -/
  verbose : Bool := false
  /-- Whether the person wants it to stop. -/
  cancelled : Bool := false
  /-- Whether settings were met that no program could go on with: a number too large. -/
  collapsed : Bool := false
  /-- The application that works. -/
  app : App := {}
  /-- The applications that wait for it to end, the last one first. -/
  waiting : List App := []
  /-- The documents. -/
  documents : List Document := []
  /-- What happened, the latest first. -/
  history : List Event := []
  deriving Inhabited

/-- Does something in a session. -/
abbrev Action := StateM Session

/-- Does something in a session, or fails at it. -/
abbrev Attempt := ExceptT Failure Action

/-! ## Documents -/

namespace Session

/-- Puts a document in the place of a number; the places before it are filled if need be. -/
def placeDocument (d : Document) : Nat → List Document → List Document
  | 0, [] => [d]
  | 0, _ :: rest => d :: rest
  | n + 1, [] => default :: placeDocument d n []
  | n + 1, first :: rest => first :: placeDocument d n rest

/-- The document of a number. -/
def document (s : Session) (n : Nat) : Document := s.documents.getD n default

/-- The session with another document of a number. -/
def putDocument (s : Session) (n : Nat) (d : Document) : Session :=
  { s with documents := placeDocument d n s.documents }

theorem getD_placeDocument (d : Document) (n m : Nat) (documents : List Document) :
    (placeDocument d n documents).getD m default =
      if n = m then d else documents.getD m default := by
  induction n generalizing m documents with
  | zero =>
    cases documents <;> cases m <;> simp [placeDocument]
  | succ n ih =>
    cases documents with
    | nil =>
      cases m with
      | zero => simp [placeDocument]
      | succ m => simpa [placeDocument] using ih m []
    | cons first rest =>
      cases m with
      | zero => simp [placeDocument]
      | succ m => simpa [placeDocument] using ih m rest

/-- After putting a document it is the one of its number, and no other has changed. -/
@[simp]
theorem document_putDocument (s : Session) (n m : Nat) (d : Document) :
    (s.putDocument n d).document m = if n = m then d else s.document m :=
  getD_placeDocument d n m s.documents

/-- The events since the history was so long, the earliest first. -/
def eventsSince (s : Session) (length : Nat) : List Event :=
  (s.history.take (s.history.length - length)).reverse

end Session

/-! ## Saying something -/

namespace Action

/-- Adds an event to the history. -/
def record (e : Event) : Action Unit :=
  modify fun s => { s with history := e :: s.history }

/-- Writes to the log in the program's own name. -/
def log (text : String) : Action Unit := record (.logged text Settings.programName)

/-- Makes a remark for debugging. -/
def debug (text : String) : Action Unit := do
  if (← get).verbose then log ("[DEBUG] " ++ text)

/-- Writes a warning to the log. -/
def warn (text : String) : Action Unit := log ("[WARN] " ++ text)

/-- Writes a failure to the log. -/
def error (text : String) : Action Unit := log ("[ERROR] " ++ text)

/-- Writes a line for the person. -/
def print (text : String) : Action Unit := record (.printed text)

/-- Sends the person a message. -/
def notify (kind : NotificationKind) (text : String) : Action Unit :=
  record (.notified kind text)

/-- Passes a note on. -/
def note : Note → Action Unit
  | .debug text => debug text
  | .warn text => warn text
  | .error text => error text
  | .info text => log text
  | .notify kind text => notify kind text

/-- The value of a computation, its notes passed on. -/
def tell {α : Type} (x : Noted α) : Action α := do
  x.notes.forM note
  return x.value

/-- Starts or stops making remarks for debugging. -/
def setVerbose (value : Bool) : Action Unit := modify fun s => { s with verbose := value }

/-- The settings of the editor. -/
def settings : Action Settings := do return (← get).app.settings

/-- Gives the editor other settings. -/
def setSettings (settings : Settings) : Action Unit :=
  modify fun s => { s with app := { s.app with settings } }

/-- The document of a number. -/
def document (n : Nat) : Action Document := do return (← get).document n

/-- Changes the document of a number. -/
def changeDocument (n : Nat) (f : Document → Document) : Action Unit :=
  modify fun s => s.putDocument n (f (s.document n))

/-- Writes a setting of the editor at exactly one place, or finds out why that is refused. -/
def writeSetting (scope : Settings.Scope) (key : String) (language : Option String)
    (value : Option Json.Value) : Action (Except Settings.WriteError Unit) := do
  match (← settings).setRaw scope key language value with
  | .ok settings =>
    setSettings settings
    return .ok ()
  | .error e => return .error e

end Action

/-- The value of a computation, its notes passed on. -/
def Attempt.tell {α : Type} (x : Noted α) : Attempt α := liftM (Action.tell x)

end FormatChain
