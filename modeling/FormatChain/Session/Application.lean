import FormatChain.Session.Basic

/-!
# Applications

An application starts, scans for conflicts, hears of changed settings, and shuts down.

* `Application.start`, `Application.shutDown` : its beginning and its end.
* `Application.scanConflicts` : a scan that the record of the application remembers.
* `Application.scanAfterChange` : a scan if a change can affect it. There is none during a run,
  because a run changes settings only for a while.
* `Application.onConfigurationChanged` : the same, with a remark on the change.
* `Application.hold`, `Application.release` : the guard's permit, taken from outside of any run.
* `Application.within` : an application while another one waits.
* `Application.outer` : the one that waits.
-/

namespace FormatChain.Application

open FormatChain.Text

/-- Starts an application: nobody holds its guard, and its record is empty. -/
def start : Action Unit := do
  Action.debug s!"Starting {Settings.programName} v{Settings.programVersion}"
  modify fun s => { s with app := { s.app with guard := {}, conflicted := .empty } }

/-- Scans for conflicts. -/
def scanConflicts (settings : Settings) : Action Conflict.ScanReport := do
  let progress ← Action.tell (Conflict.scan settings (← get).app.conflicted)
  modify fun s => { s with app := { s.app with conflicted := progress.record } }
  return progress.report

/-- Scans for conflicts if the changed keys can affect a scan and there is no run. -/
def scanAfterChange (settings : Settings) (keys : List String) :
    Action (Option Conflict.ScanReport) := do
  if keys.any Conflict.isAffectingKey then
    if (← get).app.guard.held then
      Action.debug "Formatting in progress. Skipping conflict scan."
      return none
    else return some (← scanConflicts settings)
  else return none

/-- Hears of changed keys. -/
def onConfigurationChanged (settings : Settings) (keys : List String) :
    Action (Option Conflict.ScanReport) := do
  Action.debug ("Configuration changed: " ++ joined ", " keys)
  scanAfterChange settings keys

/-- Takes the guard's permit from outside of any run: whether there is one. -/
def hold : Action Bool := do
  match (← get).app.guard.tryAcquire? with
  | some guard =>
    modify fun s => { s with app := { s.app with guard } }
    return true
  | none => return false

/-- Gives the guard's permit back. -/
def release : Action Unit :=
  modify fun s => { s with app := { s.app with guard := s.app.guard.release } }

/-- Shuts an application down. -/
def shutDown : Action Unit := do
  if (← get).app.guard.held then
    Action.warn "Shutting down while formatting is in progress."
  modify fun s => { s with app := { s.app with conflicted := .empty } }
  Action.debug "Shut down."

/-- Lets another application work while the present one waits. -/
def within {α : Type} (action : Action α) : Action α := do
  modify fun s => { s with app := {}, waiting := s.app :: s.waiting }
  let result ← action
  modify fun s => { s with app := s.waiting.headD {}, waiting := s.waiting.drop 1 }
  return result

/-- Lets the application that waits work for a moment, the present one being as it was after it.
If none waits the present one works. -/
def outer (action : Action Unit) : Action Unit := do
  let present := (← get).app
  match (← get).waiting with
  | [] => action
  | app :: others =>
    modify fun s => { s with app := app, waiting := others }
    action
    modify fun s => { s with app := present, waiting := s.app :: s.waiting }

end FormatChain.Application
