import FormatChain.Chain
import FormatChain.Run.Executor
import FormatChain.Session.Application

/-!
# Scripts for sessions

A script says what formatters do and what goes on during sleeps, effect by effect.

* `Effect` : a change by others.
* `RunOrder` : a run that is asked for, with what is left to the settings.
* `Effect.play` : what an effect does.
* `ScriptedFormatter` : a formatter whose answers are known.
* `Rehearsal.Script` : formatters, and what goes on during sleeps.
* `Script.host` : the editor of a script.
-/

/-!
## Effects

While a formatter formats or the program sleeps, others may change files, settings and documents, or
ask for runs.  An effect is one such change; it is played in a session, and most of them leave an
event behind.
-/

namespace FormatChain.Rehearsal

open FormatChain.Json

/-- How the options of a run are chosen. -/
inductive OptionChoice where
  /-- These. -/
  | given (options : RunOptions)
  /-- Those that the settings say. -/
  | resolved
  deriving Repr, DecidableEq

/-- How it is found out whether a formatter became active. -/
inductive ConfirmChoice where
  /-- By looking. -/
  | polling
  /-- This is the answer. -/
  | fixed (answer : Bool)
  deriving Repr, DecidableEq

/-- A run that is asked for. -/
structure RunOrder where
  /-- The number of the document. -/
  document : Nat
  /-- The chain, if it is not the one of the document's language. -/
  chain : Option (List String)
  /-- The options. -/
  options : OptionChoice
  /-- How to confirm activations. -/
  confirm : ConfirmChoice
  deriving Repr, DecidableEq

/-- The way of confirming activations that was chosen. -/
def ConfirmChoice.confirmer (host : Host) : ConfirmChoice → Confirmer
  | .polling => host.poll
  | .fixed answer => fun _ _ _ => pure answer

/-- Runs as it is asked for. -/
def RunOrder.perform (order : RunOrder) (host : Host) : Action RunReport := do
  let settings ← Action.settings
  let language := (← Action.document order.document).language
  let chain ← match order.chain with
    | some ids => pure (Chain.ofIds ids)
    | none => Action.tell (resolveChain settings language)
  let options ← match order.options with
    | .given options => pure options
    | .resolved => Action.tell (resolveRunOptions settings language)
  host.runWith (order.confirm.confirmer host) order.document chain options

/-- A change by others. -/
inductive Effect where
  /-- The person wants the program to stop. -/
  | cancel
  /-- A file is written or removed. -/
  | file (path : Path) (text : Option String)
  /-- A file is marked against writing, or the mark is removed. -/
  | readOnly (path : Path) (flag : Bool)
  /-- A setting is written or removed. -/
  | setting (scope : Settings.Scope) (key : String) (language : Option String)
    (value : Option Value)
  /-- A layer of the settings is marked against writing, or the mark is removed. -/
  | layerReadOnly (scope : Settings.Scope) (flag : Bool)
  /-- A document gets another text. -/
  | documentText (document : Nat) (text : String)
  /-- Keys of the settings are said to have changed. -/
  | configurationChanged (keys : List String)
  /-- Somebody looks at the guard. -/
  | lookAtGuard
  /-- Somebody asks for a run. -/
  | run (order : RunOrder)

/-- Marks a layer of the editor's settings against writing, or removes the mark. -/
def markLayer (scope : Settings.Scope) (flag : Bool) : Action Unit := do
  let settings ← Action.settings
  match settings.layers.get? scope with
  | none => pure ()
  | some layer => Action.setSettings (settings.setLayer scope { layer with readOnly := flag })

/-- Plays an effect in a session, runs with an editor. -/
def Effect.play (host : Host) : Effect → Action Unit
  | .cancel => modify fun s => { s with cancelled := true }
  | .file path (some text) => modify fun s => { s with disk := s.disk.put path text }
  | .file path none => modify fun s => { s with disk := s.disk.remove path }
  | .readOnly path flag => modify fun s => { s with disk := s.disk.markReadOnly path flag }
  | .setting scope key language value => do
    Action.record (.settingWritten (← Action.writeSetting scope key language value))
  | .layerReadOnly scope flag => markLayer scope flag
  | .documentText n text => Action.changeDocument n (·.setText text)
  | .configurationChanged keys => do
    Action.record
      (.configurationChanged (← Application.onConfigurationChanged (← Action.settings) keys))
  | .lookAtGuard => do Action.record (.guardSeen (← get).app.guard.held)
  | .run order => do Action.record (.nestedRun (← order.perform host))

end FormatChain.Rehearsal

/-!
## Scripts for sessions

A script says what formatters do each time they are asked, and what goes on during the sleeps of a
session, by their number.  With it a session can be gone through from start to end.
-/

namespace FormatChain.Rehearsal

open FormatChain.Text

/-- What a formatter does when it is asked. -/
inductive Answer where
  /-- It finds nothing to do. -/
  | unchanged
  /-- It says that it updated the file. -/
  | fileUpdated
  /-- It gives up with these words. -/
  | failure (words : List String)
  /-- It makes this of any text. -/
  | set (text : String)
  /-- It adds this at the end. -/
  | append (text : String)
  /-- It replaces every occurrence of a text. -/
  | replace (old new : String)
  /-- It replaces a text as a whole, and finds nothing to do in any other. -/
  | exact (old new : String)
  deriving Repr, DecidableEq

/-- The output of a formatter for a text. -/
def Answer.output (text : String) : Answer → Except Failure FormatOutput
  | .unchanged => .ok .unchanged
  | .fileUpdated => .ok .fileUpdated
  | .failure words => .error (.formatterFailed words)
  | .set new => .ok (.text new)
  | .append more => .ok (.text (text ++ more))
  | .replace old new => .ok (.text (replaceAll text old new))
  | .exact old new => .ok (if text = old then .text new else .unchanged)

/-- A formatter whose answers are known. -/
structure ScriptedFormatter where
  /-- The id. -/
  id : String
  /-- Whether it works on disk. -/
  onDisk : Bool
  /-- What goes on while it formats. -/
  effects : List Effect
  /-- Its answers in order; the last one stands for all later ones. -/
  answers : List Answer

/-- How often a formatter was asked. -/
def timesAsked (id : String) (history : List Event) : Nat :=
  history.countP fun e =>
    match e with
    | .formatted other _ => other == id
    | _ => false

/-- How often the program slept. -/
def timesSlept (history : List Event) : Nat :=
  history.countP fun e =>
    match e with
    | .slept _ => true
    | _ => false

/-- The answer of a formatter when it is asked for so many times. -/
def ScriptedFormatter.answer (f : ScriptedFormatter) (times : Nat) : Answer :=
  match f.answers[times - 1]? with
  | some answer => answer
  | none => f.answers.getLast?.getD .unchanged

/-- Formats by the script, effects being played in a given way. -/
def ScriptedFormatter.format (f : ScriptedFormatter) (play : Effect → Action Unit)
    (request : FormatRequest) : Attempt FormatOutput := do
  Action.record (.formatted f.id request)
  let times := timesAsked f.id (← get).history
  f.effects.forM fun effect => play effect
  ExceptT.mk (pure ((f.answer times).output request.text))

/-- The formatter of a script. -/
def ScriptedFormatter.formatter (f : ScriptedFormatter) (play : Effect → Action Unit) :
    Formatter :=
  ⟨f.id, f.onDisk, f.format play⟩

/-- What formatters do, and what goes on during sleeps. -/
structure Script where
  /-- The formatters. -/
  formatters : List ScriptedFormatter := []
  /-- The effects of sleeps, by their number from one on. -/
  sleeps : List (Nat × List Effect) := []

namespace Script

/-- Plays the effects of the sleep that goes on. -/
def playSleep (s : Script) (play : Effect → Action Unit) : Action Unit := do
  let number := timesSlept (← get).history
  s.sleeps.forM fun (n, effects) =>
    if n = number then effects.forM fun effect => play effect else pure ()

/-- The editor of a script, for runs in runs so deep. -/
def hostUpTo (s : Script) : Nat → Host
  | 0 => ⟨.empty, fun _ => pure ()⟩
  | depth + 1 =>
    let play := Effect.play (s.hostUpTo depth)
    ⟨.ofFormatters (s.formatters.map fun f => f.formatter play), fun _ => s.playSleep play⟩

/-- How deep runs in runs are followed. A run in a run is refused unless it is another
application's, and so is every run in that one. -/
def depth : Nat := 4

/-- The editor of a script. -/
def host (s : Script) : Host := s.hostUpTo depth

/-- The number of sleeps after which nothing goes on any more. -/
def lastSleep (s : Script) : Nat := (s.sleeps.map (·.1)).foldl max 0

end Script

end FormatChain.Rehearsal
