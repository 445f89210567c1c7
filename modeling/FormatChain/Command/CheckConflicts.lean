import FormatChain.Command.Format
import FormatChain.Session.Application
import FormatChain.Workspace.Load

/-!
# Checking for conflicts

The languages of a workspace are checked once, or again and again while the settings files change.

* `Command.checkConflicts` : one check.
* `Watch`, `Watch.begin`, `Watch.poll` : the settings under watch, the first check, and one look at
  the files.
* `Watch.keep` : so many looks, with pauses before them.
-/

namespace FormatChain

open FormatChain.Settings (Places)

/-- Checks the languages of a workspace once. It fails if there are conflicts. -/
def Command.checkConflicts (root : Path) : Attempt Unit := do
  let (settings, _) ← Workspace.loadSettings root none
  let report ← Application.scanConflicts settings
  if report.newConflicts.isEmpty then
    Action.print "No formatting conflicts found."
  else
    report.newConflicts.forM fun conflict =>
      Action.print s!"{conflict.language}: {conflict.formatter} formats on save"
    throw (.conflictsFound (report.newConflicts.map (·.language)))

/-- Settings whose files are under watch. -/
structure Watch where
  /-- The files. -/
  places : Places
  /-- The settings, as they were loaded last. -/
  settings : Settings
  /-- The fingerprint of the files, as they were seen last. -/
  seen : Fingerprint

namespace Watch

/-- The milliseconds between two looks. -/
def interval : Nat := 500

/-- Checks the languages of a workspace, and starts to watch its settings files. -/
def begin (root : Path) : Attempt Watch := do
  let (settings, places) ← Workspace.loadSettings root none
  let _ ← Application.scanConflicts settings
  Action.log "Watching settings files for changes. Press Ctrl+C to stop."
  return { places, settings, seen := ← Workspace.filesFingerprint places }

/-- Takes over settings that were loaded again. -/
def reload (w : Watch) (layers : Settings.PerScope Settings.Layer) : Action Watch := do
  let (keys, settings) := w.settings.replaceLayers layers
  if !keys.isEmpty then
    match ← Application.onConfigurationChanged settings keys with
    | none => pure ()
    | some report =>
      Action.debug (s!"Conflict scan: {report.newConflicts.length} new, "
        ++ s!"{report.resolved.length} resolved, {report.errored.length} failed.")
  return { w with settings }

/-- Looks at the files once. If they have changed they are loaded again; while that is impossible
the settings stay as they are. -/
def poll (w : Watch) : Action Watch := do
  let now ← Workspace.filesFingerprint w.places
  if now = w.seen then return w
  else
    let w := { w with seen := now }
    match ← (Workspace.loadLayers w.places).run with
    | .ok layers => w.reload layers
    | .error e =>
      Action.error e.text
      return w

/-- Looks at the files up to so many times, with a pause before each look, until the person wants it
to stop. -/
def keep (meanwhile : Nat → Action Unit) : Nat → Watch → Action Watch
  | 0, w => return w
  | looks + 1, w => do
    if (← get).cancelled then return w
    else
      Action.record (.slept interval)
      meanwhile interval
      if (← get).cancelled then return w
      else keep meanwhile looks (← w.poll)

end Watch

end FormatChain
