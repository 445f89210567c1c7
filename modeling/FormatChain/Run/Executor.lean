import FormatChain.Chain
import FormatChain.Fingerprint
import FormatChain.Run.Activation

/-!
# Runs

A run takes a document with unsaved changes through a chain: each formatter in turn is made the
active one of the document's language and the editor is asked to format.  A formatter that fails
does not stop the run.  At the end the active formatter is what it was at the start, and the report
has one edit for all changes.

* `Host.runStep`, `Host.runSteps` : one formatter, and all of them.
* `Host.runChain` : a run on a document, without regard to other runs.
* `Host.run` : a run, unless there is another one or nothing to do.
-/

namespace FormatChain

open FormatChain.Json

/-- The formatters that ran, and how that ended. -/
structure Stepping where
  /-- The reports of the formatters, in order. -/
  steps : List StepReport := []
  /-- Whether the person wanted it to stop. -/
  cancelled : Bool := false
  /-- Why it ended early, if it did. -/
  failure : Option RunFailure := none
  /-- The slot as it was left. -/
  slot : Slot

/-- What is common to all steps of a run. -/
structure Course where
  /-- The number of the document. -/
  document : Nat
  /-- How to run. -/
  options : RunOptions
  /-- How to find out whether a formatter became active. -/
  confirm : Confirmer
  /-- The number of formatters. -/
  length : Nat

/-- How a value of a setting is shown. -/
def settingShown : Option Value → String
  | some value => value.text
  | none => "(unset)"

namespace Host

/-- Names a formatter in a slot, or reports why that is refused. -/
def activate (slot : Slot) (id : String) : Action (Except Failure Slot) := do
  match slot.activate id (← Action.settings) with
  | .ok (slot, settings) =>
    Action.setSettings settings
    return .ok slot
  | .error e =>
    Action.error s!"Failed activating formatter '{id}'. {e.message}"
    return .error (.settingRefused e)

/-- Lets the editor format with a formatter that was named: the report, and the fingerprint of the
text after it. -/
def runStep (host : Host) (course : Course) (slot : Slot) (index : Nat) (id : String)
    (before : Fingerprint) : Action (StepReport × Fingerprint) := do
  host.sleep course.options.delay
  let confirmed ← course.confirm slot id course.options.activation
  unless confirmed do
    Action.warn (s!"Could not confirm '{id}' became the active formatter after "
      ++ s!"{course.options.activation.attempts} attempts. Formatting anyway.")
  let result ← (host.formatDocument course.document).run
  host.sleep course.options.delay
  let after := Fingerprint.of (← Action.document course.document).text
  let changed := before != after
  let shown := if changed then "changed" else "unchanged"
  Action.debug (s!"Step {index + 1}/{course.length}: {id} finished. "
    ++ s!"Fingerprint {before.text} -> {after.text} ({shown}).")
  match result with
  | .ok () => return (⟨id, confirmed, changed, none⟩, after)
  | .error failure =>
    Action.error s!"Formatter '{id}' failed. {failure.text}"
    return (⟨id, confirmed, changed, some failure⟩, after)

/-- Saves after a formatter if there is something to save and the options ask for it: why that was
refused, if it was. -/
def saveAfterStep (course : Course) (id : String) : Action (Option RunFailure) := do
  if course.options.saveAfterEach && (← Action.document course.document).isDirty then
    match ← (saveDocument course.document).run with
    | .ok () => return none
    | .error cause =>
      Action.error s!"Failed saving after '{id}'. {cause.text}"
      return some ⟨some id, cause⟩
  else return none

/-- Lets the formatters run one after the other, until one is refused or the person wants it to
stop. -/
def runSteps (host : Host) (course : Course) :
    Nat → List String → Slot → Fingerprint → Action Stepping
  | _, [], slot, _ => return { slot }
  | index, id :: rest, slot, before => do
    if (← get).cancelled then
      Action.debug s!"Cancelled before step {index + 1}/{course.length} ({id})."
      return { cancelled := true, slot }
    else
      Action.debug s!"Step {index + 1}/{course.length}: {id}"
      match ← activate slot id with
      | .error cause => return { failure := some ⟨some id, cause⟩, slot }
      | .ok slot =>
        let (step, after) ← host.runStep course slot index id before
        match ← saveAfterStep course id with
        | some failure => return { steps := [step], failure := some failure, slot }
        | none =>
          let others ← host.runSteps course (index + 1) rest slot after
          return { others with steps := step :: others.steps }

/-- Restores the active formatter, and remarks on it. -/
def restore (slot : Slot) : Action Unit := do
  match slot.restore (← Action.settings) with
  | .ok settings =>
    Action.setSettings settings
    Action.debug
      s!"Restored active formatter at {slot.scope.name} scope to {settingShown slot.found}."
  | .error e =>
    Action.error s!"Failed restoring the active formatter at {slot.scope.name} scope. {e.message}"

/-- Saves after the chain if nothing was refused, there is something to save and the options ask for
it: why the run ended early, if it did. -/
def saveAfterChain (course : Course) (failure : Option RunFailure) :
    Action (Option RunFailure) := do
  let d ← Action.document course.document
  let options := course.options
  if !options.saveAfterEach && options.saveAfterChain && failure.isNone && d.isDirty then
    match ← (saveDocument course.document).run with
    | .ok () => return none
    | .error cause =>
      Action.error s!"Failed saving {d.path.text}. {cause.text}"
      return some ⟨none, cause⟩
  else return failure

/-- The edit that leads from a text to the document's text. -/
def finalEdit (course : Course) (original : String) : Action EditResult := do
  let d ← Action.document course.document
  if d.text = original then
    Action.debug s!"No changes to {d.path.text}."
    return .noChanges
  else return .replace d.text

/-- Takes a document through a chain. -/
def runChain (host : Host) (course : Course) (chain : Chain) : Action RunReport := do
  let d ← Action.document course.document
  match Slot.acquire (← Action.settings) d.language with
  | .error e =>
    Action.error s!"Could not capture the active formatter. {e.message}"
    return ⟨.noChanges, [], false, some ⟨none, .settingRefused e⟩⟩
  | .ok slot =>
    Action.debug (s!"Running {chain.text} for {d.path.text} ({d.language}). "
      ++ s!"Active formatter at {slot.scope.name} scope was {settingShown slot.found}.")
    let stepping ← host.runSteps course 0 chain.ids slot (Fingerprint.of d.text)
    restore stepping.slot
    let failure ← saveAfterChain course stepping.failure
    let edit ← finalEdit course d.text
    return ⟨edit, stepping.steps, stepping.cancelled, failure⟩

/-- Takes a document through a chain if it has unsaved changes and there are formatters. -/
def runIfNeeded (host : Host) (course : Course) (chain : Chain) : Action RunReport := do
  let d ← Action.document course.document
  if !d.isDirty then
    Action.debug s!"No unsaved changes in {d.path.text}. Skipping."
    return .skipped .notDirty
  else if chain.isEmpty then
    Action.debug s!"No formatters for '{d.language}'. Skipping."
    return .skipped .emptyChain
  else host.runChain course chain

/-- The guard after a change. -/
def setGuard (guard : Guard) : Action Unit :=
  modify fun s => { s with app := { s.app with guard } }

/-- A run with a way of confirming activations, unless another run is going on. -/
def runWith (host : Host) (confirm : Confirmer) (n : Nat) (chain : Chain) (options : RunOptions) :
    Action RunReport := do
  match (← get).app.guard.tryAcquire? with
  | none =>
    Action.debug
      s!"Formatting already in progress. Skipping {(← Action.document n).path.text}."
    return .skipped .alreadyRunning
  | some guard =>
    setGuard guard
    let report ← host.runIfNeeded ⟨n, options, confirm, chain.length⟩ chain
    setGuard (← get).app.guard.release
    return report

/-- A run that looks whether its formatters become active, unless another run is going on. -/
def run (host : Host) (n : Nat) (chain : Chain) (options : RunOptions) : Action RunReport :=
  host.runWith host.poll n chain options

end Host

end FormatChain
