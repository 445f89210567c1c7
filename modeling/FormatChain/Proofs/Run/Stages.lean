import FormatChain.Proofs.Run.Editor
import FormatChain.Run.Executor

/-!
# The stages of a run

A run that is not skipped takes the guard, lets the formatters run, restores the setting, saves, and
gives the guard back.  What it does up to the restoration and what it does from there on are parts
of their own here, as is each formatter's step, with everything that it can come to.

* `Host.runStep_spec` : the step of a formatter is a formatting, with sleeps around it.
* `Host.Stepped`, `Host.runSteps_stepped` : all that running formatters can come to.
* `Host.saveAfterStep_savedIf`, `Host.saveAfterChain_savedIf` : when a run saves.
* `Host.upToRestore`, `Host.fromRestore` : the two parts of a run.
* `Host.runWith_eq` : the run is made of them.
* `Host.Ran`, `Host.runWith_ran` : all that a run can come to.
-/

namespace FormatChain

open FormatChain.Json
open FormatChain.Session (WithEvents)
open FormatChain.Settings (Scope WriteError)

variable {host : Host} {course : Course} {slot : Slot} {index : Nat} {id : String}
  {fingerprint : Fingerprint} {s s' : Session}

/-! ## The slot -/

theorem Slot.activate_eq_ok_iff {slot' : Slot} {settings settings' : Settings} :
    slot.activate id settings = .ok (slot', settings') ↔
      slot' = { slot with modified := true } ∧
        settings.setRaw slot.scope Settings.Key.defaultFormatter slot.language
          (some (.string id)) = .ok settings' := by
  rw [Slot.activate]
  split
  · next h => simp [h, eq_comm]
  · next h => simp [h]

/-- Putting back writes the setting, or leaves the settings alone if no formatter was named. -/
theorem Slot.restore_eq_ok_iff {settings settings' : Settings} :
    slot.restore settings = .ok settings' ↔
      slot.modified = true ∧ settings.setRaw slot.scope Settings.Key.defaultFormatter slot.language
          slot.found = .ok settings' ∨
        slot.modified = false ∧ settings' = settings := by
  rw [Slot.restore]
  split
  · next h => simp [h]
  · next h => simp [h, eq_comm]

/-- The setting of a language at a scope, with the value that is found in it. -/
def Slot.at (settings : Settings) (scope : Scope) (language : String) : Slot :=
  { scope, language, found := settings.raw? scope Settings.Key.defaultFormatter language }

theorem Slot.acquire_of_narrowest {settings : Settings} {scope : Scope}
    (h : settings.narrowestScope? = some scope) (language : String) :
    Slot.acquire settings language = .ok (.at settings scope language) := by
  simp only [Slot.acquire, Slot.at, h]

namespace Host

/-! ## One formatter -/

theorem activate_ok {slot' : Slot} {settings : Settings}
    (h : slot.activate id s.app.settings = .ok (slot', settings)) :
    activate slot id s = (.ok slot', { s with app := { s.app with settings } }) := by
  simp only [activate, Action.bind_apply, Action.settings_apply, h]
  rfl

theorem activate_error {e : WriteError} (h : slot.activate id s.app.settings = .error e) :
    activate slot id s =
      (.error (.settingRefused e),
        (Action.error s!"Failed activating formatter '{id}'. {e.message}" s).2) := by
  simp only [activate, Action.bind_apply, Action.settings_apply, h]
  rfl

/-- Why something failed, if it did. -/
def failure? {α : Type} : Except Failure α → Option Failure
  | .ok _ => none
  | .error e => some e

/-- What a step does after the editor formatted: it sleeps, and remarks on what came of it. -/
def concludeStep (host : Host) (course : Course) (index : Nat) (id : String)
    (before : Fingerprint) (confirmed : Bool) (result : Except Failure Unit) :
    Action (StepReport × Fingerprint) := do
  host.sleep course.options.delay
  let after := Fingerprint.of (← Action.document course.document).text
  let changed := before != after
  let shown := if changed then "changed" else "unchanged"
  Action.debug (s!"Step {index + 1}/{course.length}: {id} finished. "
    ++ s!"Fingerprint {before.text} -> {after.text} ({shown}).")
  match result with
  | .ok () => return (⟨id, confirmed, changed, none⟩, after)
  | .error failure =>
    Action.error s!"Formatter '{id}' failed. {failure.text}"
    return (⟨id, confirmed, changed, some failure⟩, after)

theorem concludeStep_spec {R : Session → Session → Prop} [IsPreorder Session R]
    (hidles : host.Idles R) (course : Course) (index : Nat) (id : String)
    (fingerprint : Fingerprint) (confirmed : Bool) (result : Except Failure Unit) :
    let ran := host.concludeStep course index id fingerprint confirmed result s
    R s ran.2 ∧ ran.1.1.formatter = id ∧ ran.1.1.failure = failure? result := by
  have hslept := hidles.sleep course.options.delay s
  simp only [concludeStep, Action.bind_apply, Action.document_apply]
  generalize (host.sleep course.options.delay s).2 = slept at hslept ⊢
  have hsaid : ∀ text, R s (Action.debug text slept).2 := fun text =>
    (hidles.of_onlySays (Action.debug_onlySays text)).after hslept
  cases result with
  | ok u => exact ⟨hsaid _, rfl, rfl⟩
  | error e =>
    exact ⟨(hidles.of_onlySays (Action.error_onlySays _)).after (hsaid _), rfl, rfl⟩

theorem runStep_eq_concludeStep (host : Host) (course : Course) (slot : Slot) (index : Nat)
    (id : String) (before : Fingerprint) :
    host.runStep course slot index id before = (do
      host.sleep course.options.delay
      let confirmed ← course.confirm slot id course.options.activation
      unless confirmed do
        Action.warn (s!"Could not confirm '{id}' became the active formatter after "
          ++ s!"{course.options.activation.attempts} attempts. Formatting anyway.")
      let result ← (host.formatDocument course.document).run
      host.concludeStep course index id before confirmed result) := rfl

/-- A step lets the editor format, and reports how that went.  Before and after it there are only
sleeps, looks and remarks. -/
theorem runStep_spec {R : Session → Session → Prop} [IsPreorder Session R] (hidles : host.Idles R)
    (hconfirm : course.confirm = host.poll) {step : StepReport} {after : Fingerprint}
    (hran : host.runStep course slot index id fingerprint s = ((step, after), s')) :
    ∃ asked, R s asked ∧ R ((host.formatDocument course.document).run asked).2 s' ∧
      step.formatter = id ∧
      step.failure = failure? ((host.formatDocument course.document).run asked).1 := by
  -- Up to the formatting there may or may not be a warning.
  obtain ⟨confirmed, asked, hasked, hconclude⟩ : ∃ confirmed asked, R s asked ∧
      host.runStep course slot index id fingerprint s =
        host.concludeStep course index id fingerprint confirmed
          ((host.formatDocument course.document).run asked).1
          ((host.formatDocument course.document).run asked).2 := by
    have hslept := hidles.sleep course.options.delay s
    rw [runStep_eq_concludeStep, hconfirm]
    simp only [Action.bind_apply]
    generalize (host.sleep course.options.delay s).2 = slept at hslept ⊢
    have hseen := (hidles.poll slot id course.options.activation).after hslept
    rcases hpolled : host.poll slot id course.options.activation slept with ⟨confirmed, seen⟩
    rw [hpolled] at hseen
    cases confirmed with
    | true => exact ⟨true, seen, hseen, rfl⟩
    | false =>
      exact ⟨false, _, (hidles.of_onlySays (Action.warn_onlySays _)).after hseen, rfl⟩
  have hspec := concludeStep_spec (s := ((host.formatDocument course.document).run asked).2) hidles
    course index id fingerprint confirmed ((host.formatDocument course.document).run asked).1
  rw [← hconclude, hran] at hspec
  exact ⟨asked, hasked, hspec⟩

/-- When a run saves after a formatter. -/
def SavesAfterStep (course : Course) (s : Session) : Prop :=
  course.options.saveAfterEach = true ∧ (s.document course.document).isDirty = true

/-- Saving after a formatter is asked for by the options, and needs something to save. -/
theorem saveAfterStep_savedIf {failure : Option RunFailure}
    (h : saveAfterStep course id s = (failure, s')) :
    ∃ cause : Option Failure, failure = cause.map (⟨some id, ·⟩) ∧
      SavedIf course.document (SavesAfterStep course s) s cause s' := by
  by_cases hwanted : SavesAfterStep course s
  · simp only [saveAfterStep, hwanted.1, Bool.true_and, Action.bind_apply, Action.document_apply,
      hwanted.2, if_true] at h
    have hsaved := saveDocument_saved course.document s
    rcases hrun : (saveDocument course.document).run s with ⟨cause | ⟨⟩, tried⟩
    · rw [hrun] at hsaved h
      obtain ⟨rfl, rfl⟩ := Prod.mk.inj h
      exact ⟨some cause, rfl, .refused hwanted hsaved (Action.error_onlySays _ tried)⟩
    · rw [hrun] at hsaved h
      obtain ⟨rfl, rfl⟩ := Prod.mk.inj h
      exact ⟨none, rfl, .saved hwanted hsaved⟩
  · have hunwanted : saveAfterStep course id s = (none, s) := by
      cases heach : course.options.saveAfterEach with
      | false =>
        simp only [saveAfterStep, heach, Bool.false_and, Bool.false_eq_true, if_false]
        rfl
      | true =>
        have hclean : (s.document course.document).isDirty = false := by
          simpa [SavesAfterStep, heach] using hwanted
        simp only [saveAfterStep, heach, Bool.true_and, Action.bind_apply, Action.document_apply,
          hclean, Bool.false_eq_true, if_false]
        rfl
    rw [hunwanted] at h
    obtain ⟨rfl, rfl⟩ := Prod.mk.inj h
    exact ⟨none, rfl, .unwanted hwanted⟩

/-! ## All formatters -/

/-- All that running formatters one after the other can come to: what is to run, from which slot,
fingerprint and session on, and what came of it. -/
inductive Stepped (host : Host) (course : Course) :
    Nat → List String → Slot → Fingerprint → Session → Stepping → Session → Prop
  /-- No formatter is left. -/
  | done {index : Nat} {slot : Slot} {fingerprint : Fingerprint} {s : Session} :
      Stepped host course index [] slot fingerprint s { slot } s
  /-- The person wants it to stop. -/
  | cancelled {index : Nat} {id : String} {rest : List String} {slot : Slot}
      {fingerprint : Fingerprint} {s s' : Session} (hcancelled : s.cancelled = true)
      (hsaid : WithEvents s s') :
      Stepped host course index (id :: rest) slot fingerprint s { cancelled := true, slot } s'
  /-- The formatter cannot be named. -/
  | refused {index : Nat} {id : String} {rest : List String} {slot : Slot}
      {fingerprint : Fingerprint} {s s' : Session} {e : WriteError}
      (hgoing : s.cancelled = false) (hactivate : slot.activate id s.app.settings = .error e)
      (hsaid : WithEvents s s') :
      Stepped host course index (id :: rest) slot fingerprint s
        { failure := some ⟨some id, .settingRefused e⟩, slot } s'
  /-- The formatter has its step, and saving after it is refused. -/
  | unsaved {index : Nat} {id : String} {rest : List String} {slot slot' : Slot}
      {fingerprint fingerprint' : Fingerprint} {settings : Settings} {step : StepReport}
      {s announced stepped s' : Session} {cause : Failure}
      (hgoing : s.cancelled = false) (hannounced : WithEvents s announced)
      (hactivate : slot.activate id s.app.settings = .ok (slot', settings))
      (hran : host.runStep course slot' index id fingerprint
        { announced with app := { announced.app with settings } } = ((step, fingerprint'), stepped))
      (hsave : SavedIf course.document (SavesAfterStep course stepped) stepped (some cause) s') :
      Stepped host course index (id :: rest) slot fingerprint s
        { steps := [step], failure := some ⟨some id, cause⟩, slot := slot' } s'
  /-- The formatter has its step, and the others have theirs. -/
  | goesOn {index : Nat} {id : String} {rest : List String} {slot slot' : Slot}
      {fingerprint fingerprint' : Fingerprint} {settings : Settings} {step : StepReport}
      {s announced stepped saved s' : Session} {others : Stepping}
      (hgoing : s.cancelled = false) (hannounced : WithEvents s announced)
      (hactivate : slot.activate id s.app.settings = .ok (slot', settings))
      (hran : host.runStep course slot' index id fingerprint
        { announced with app := { announced.app with settings } } = ((step, fingerprint'), stepped))
      (hsave : SavedIf course.document (SavesAfterStep course stepped) stepped none saved)
      (hrest : Stepped host course (index + 1) rest slot' fingerprint' saved others s') :
      Stepped host course index (id :: rest) slot fingerprint s
        { others with steps := step :: others.steps } s'

/-- **Running formatters comes to one of these ends.** -/
theorem runSteps_stepped (host : Host) (course : Course) (ids : List String) (index : Nat)
    (slot : Slot) (fingerprint : Fingerprint) (s : Session) :
    Stepped host course index ids slot fingerprint s
      (host.runSteps course index ids slot fingerprint s).1
      (host.runSteps course index ids slot fingerprint s).2 := by
  induction ids generalizing index slot fingerprint s with
  | nil =>
    rw [runSteps]
    exact .done
  | cons id rest ih =>
    rw [runSteps, Action.bind_apply, Action.get_apply]
    cases hcancelled : s.cancelled with
    | true =>
      simp only [if_true]
      exact .cancelled hcancelled (Action.debug_onlySays _ s)
    | false =>
      simp only [Bool.false_eq_true, if_false, Action.bind_apply]
      have hannounced :=
        Action.debug_onlySays s!"Step {index + 1}/{course.length}: {id}" s
      generalize (Action.debug s!"Step {index + 1}/{course.length}: {id}" s).2 = announced
        at hannounced ⊢
      have hsettings : announced.app.settings = s.app.settings := by rw [hannounced.app]
      cases hactivate : slot.activate id s.app.settings with
      | error e =>
        rw [activate_error (hsettings ▸ hactivate)]
        exact .refused hcancelled hactivate ((Action.error_onlySays _).after hannounced)
      | ok named =>
        obtain ⟨slot', settings⟩ := named
        rw [activate_ok (hsettings ▸ hactivate)]
        simp only [Action.bind_apply]
        rcases hran : host.runStep course slot' index id fingerprint
          { announced with app := { announced.app with settings } } with ⟨⟨step, after⟩, stepped⟩
        rcases hsaved : saveAfterStep course id stepped with ⟨failure, saved⟩
        obtain ⟨cause, rfl, hsave⟩ := saveAfterStep_savedIf hsaved
        cases cause with
        | some cause =>
          exact .unsaved hcancelled hannounced hactivate hran hsave
        | none =>
          exact .goesOn hcancelled hannounced hactivate hran hsave
            (ih (index + 1) slot' after saved)

/-! ## After the formatters -/

/-- A run restores what it found in its slot if it named a formatter in it. -/
theorem restore_ok {settings : Settings} (h : slot.restore s.app.settings = .ok settings) :
    WithEvents { s with app := { s.app with settings } } (restore slot s).2 := by
  simp only [restore, Action.bind_apply, Action.settings_apply, h, Action.setSettings_apply]
  exact Action.debug_onlySays _ _

theorem restore_error {e : WriteError} (h : slot.restore s.app.settings = .error e) :
    WithEvents s (restore slot s).2 := by
  simp only [restore, Action.bind_apply, Action.settings_apply, h]
  exact Action.error_onlySays _ _

/-- When a run saves after the chain: neither if it was to save after each formatter, nor if it
failed. -/
def SavesAfterChain (course : Course) (failure : Option RunFailure) (s : Session) : Prop :=
  course.options.saveAfterEach = false ∧ course.options.saveAfterChain = true ∧ failure = none ∧
    (s.document course.document).isDirty = true

theorem saveAfterChain_savedIf {failure failure' : Option RunFailure}
    (h : saveAfterChain course failure s = (failure', s')) :
    ∃ cause : Option Failure, failure' = (cause.elim failure fun cause => some ⟨none, cause⟩) ∧
      SavedIf course.document (SavesAfterChain course failure s) s cause s' := by
  rw [saveAfterChain, Action.bind_apply, Action.document_apply] at h
  by_cases hwanted : SavesAfterChain course failure s
  · obtain ⟨heach, hchain, hnone, hdirty⟩ := id hwanted
    simp only [heach, hchain, hnone, hdirty, Bool.not_false, Bool.true_and, Option.isNone_none,
      if_true, Action.bind_apply] at h
    have hsaved := saveDocument_saved course.document s
    rcases hrun : (saveDocument course.document).run s with ⟨cause | ⟨⟩, tried⟩
    · rw [hrun] at hsaved h
      obtain ⟨rfl, rfl⟩ := Prod.mk.inj h
      exact ⟨some cause, rfl, .refused hwanted hsaved (Action.error_onlySays _ tried)⟩
    · rw [hrun] at hsaved h
      obtain ⟨rfl, rfl⟩ := Prod.mk.inj h
      exact ⟨none, hnone.symm, .saved hwanted hsaved⟩
  · have hunwanted : (!course.options.saveAfterEach && course.options.saveAfterChain &&
        failure.isNone && (s.document course.document).isDirty) = false := by
      simpa [SavesAfterChain, and_assoc] using hwanted
    simp only [hunwanted, Bool.false_eq_true, if_false] at h
    obtain ⟨rfl, rfl⟩ := Prod.mk.inj h
    exact ⟨none, rfl, .unwanted hwanted⟩

theorem finalEdit_leads {R : Session → Session → Prop} [IsPreorder Session R]
    (h : Session.AllowsWords R) (original : String) :
    Action.Leads R (finalEdit course original) := by
  refine Action.Leads.bind (fun s => refl s) fun d => ?_
  exact Action.Leads.ite ((h.debug _).bind fun _ => Action.leads_pure _) (Action.leads_pure _)

theorem finalEdit_value (original : String) :
    (finalEdit course original s).1 =
      if (s.document course.document).text = original then .noChanges
      else .replace (s.document course.document).text := by
  rw [finalEdit, Action.bind_apply, Action.document_apply]
  by_cases h : (s.document course.document).text = original
  · simp only [h, if_true]
    rfl
  · simp only [h, if_false]
    rfl

/-! ## The two parts of a run -/

/-- What a run does up to the moment at which it restores the setting: it lets the formatters
run. -/
def upToRestore (host : Host) (course : Course) (chain : Chain) (slot : Slot) :
    Action Stepping := do
  let d ← Action.document course.document
  Action.debug (s!"Running {chain.text} for {d.path.text} ({d.language}). "
    ++ s!"Active formatter at {slot.scope.name} scope was {settingShown slot.found}.")
  host.runSteps course 0 chain.ids slot (Fingerprint.of d.text)

theorem upToRestore_stepped (host : Host) (course : Course) (chain : Chain) (slot : Slot)
    (s : Session) :
    ∃ announced, WithEvents s announced ∧
      Stepped host course 0 chain.ids slot (Fingerprint.of (s.document course.document).text)
        announced (host.upToRestore course chain slot s).1
        (host.upToRestore course chain slot s).2 := by
  simp only [upToRestore, Action.bind_apply, Action.document_apply]
  exact ⟨_, Action.debug_onlySays _ s, runSteps_stepped host course chain.ids 0 slot _ _⟩

/-- What a run does from that moment on: it restores the setting, saves, and compares the text with
the one at the start. -/
def fromRestore (course : Course) (original : String) (stepping : Stepping) : Action RunReport := do
  restore stepping.slot
  let failure ← saveAfterChain course stepping.failure
  let edit ← finalEdit course original
  return ⟨edit, stepping.steps, stepping.cancelled, failure⟩

/-- **The second part of a run.** The value that was found is put back, then there may be a save,
and the report compares the text with the original. -/
theorem fromRestore_cases (course : Course) (original : String) (stepping : Stepping)
    (s : Session) :
    ∃ cause saved,
      SavedIf course.document
        (SavesAfterChain course stepping.failure (restore stepping.slot s).2)
        (restore stepping.slot s).2 cause saved ∧
      WithEvents saved (fromRestore course original stepping s).2 ∧
      (fromRestore course original stepping s).1 =
        ⟨if (saved.document course.document).text = original then .noChanges
          else .replace (saved.document course.document).text,
        stepping.steps, stepping.cancelled,
        cause.elim stepping.failure fun cause => some ⟨none, cause⟩⟩ := by
  rcases hsaved : saveAfterChain course stepping.failure (restore stepping.slot s).2 with
    ⟨failure, saved⟩
  have hended : fromRestore course original stepping s =
      (⟨(finalEdit course original saved).1, stepping.steps, stepping.cancelled, failure⟩,
        (finalEdit course original saved).2) := by
    simp only [fromRestore, Action.bind_apply, hsaved, Action.pure_apply]
  obtain ⟨cause, rfl, hsave⟩ := saveAfterChain_savedIf hsaved
  refine ⟨cause, saved, hsave, ?_, ?_⟩
  · rw [hended]
    exact finalEdit_leads Session.withEvents_allowsWords original saved
  · rw [hended, finalEdit_value]

theorem fromRestore_edit (course : Course) (original : String) (stepping : Stepping) (s : Session)
    (reason : SkipReason) :
    (fromRestore course original stepping s).1.edit ≠ .skipped reason := by
  obtain ⟨cause, saved, -, -, hreport⟩ := fromRestore_cases course original stepping s
  rw [hreport]
  dsimp only
  split
  · simp
  · simp

theorem runChain_eq (host : Host) (course : Course) (chain : Chain)
    (h : Slot.acquire s.app.settings (s.document course.document).language = .ok slot) :
    host.runChain course chain s =
      let stepped := host.upToRestore course chain slot s
      fromRestore course (s.document course.document).text stepped.1 stepped.2 := by
  simp only [runChain, Action.bind_apply, Action.document_apply, Action.settings_apply, h]
  rfl

theorem runChain_uncaptured (host : Host) (course : Course) (chain : Chain) {e : WriteError}
    (h : Slot.acquire s.app.settings (s.document course.document).language = .error e) :
    (host.runChain course chain s).1 = ⟨.noChanges, [], false, some ⟨none, .settingRefused e⟩⟩ ∧
      WithEvents s (host.runChain course chain s).2 := by
  simp only [runChain, Action.bind_apply, Action.document_apply, Action.settings_apply, h]
  exact ⟨rfl, Action.error_onlySays _ s⟩

/-- The course of a run. -/
def courseOf (confirm : Confirmer) (n : Nat) (chain : Chain) (options : RunOptions) : Course :=
  ⟨n, options, confirm, chain.length⟩

/-- The session with the guard taken. -/
def held (s : Session) : Session := { s with app := { s.app with guard := ⟨true⟩ } }

/-- The session with the guard given back. -/
def released (s : Session) : Session :=
  { s with app := { s.app with guard := s.app.guard.release } }

theorem runIfNeeded_eq (host : Host) (course : Course) {chain : Chain}
    (hdirty : (s.document course.document).isDirty = true)
    (hchain : chain.ids ≠ []) : host.runIfNeeded course chain s = host.runChain course chain s := by
  have hempty : chain.isEmpty = false := by simpa [Chain.isEmpty] using hchain
  rw [runIfNeeded, Action.bind_apply, Action.document_apply]
  simp only [hdirty, hempty, Bool.not_true, Bool.false_eq_true, if_false]

theorem runIfNeeded_clean (host : Host) (course : Course) (chain : Chain)
    (hclean : (s.document course.document).isDirty = false) :
    (host.runIfNeeded course chain s).1 = .skipped .notDirty ∧
      WithEvents s (host.runIfNeeded course chain s).2 := by
  rw [runIfNeeded, Action.bind_apply, Action.document_apply]
  simp only [hclean, Bool.not_false, if_true]
  exact ⟨rfl, Action.debug_onlySays _ s⟩

theorem runIfNeeded_emptyChain (host : Host) (course : Course) {chain : Chain}
    (hdirty : (s.document course.document).isDirty = true) (hchain : chain.ids = []) :
    (host.runIfNeeded course chain s).1 = .skipped .emptyChain ∧
      WithEvents s (host.runIfNeeded course chain s).2 := by
  have hempty : chain.isEmpty = true := by simp [Chain.isEmpty, hchain]
  rw [runIfNeeded, Action.bind_apply, Action.document_apply]
  simp only [hdirty, hempty, Bool.not_true, Bool.false_eq_true, if_false, if_true]
  exact ⟨rfl, Action.debug_onlySays _ s⟩

/-- A run is skipped if somebody holds the guard, and only remarks on it. -/
theorem runWith_held (host : Host) (confirm : Confirmer) (n : Nat) (chain : Chain)
    (options : RunOptions) (hheld : s.app.guard.held = true) :
    host.runWith confirm n chain options s =
      (.skipped .alreadyRunning, (Action.debug
        s!"Formatting already in progress. Skipping {(s.document n).path.text}." s).2) := by
  have hguard : s.app.guard.tryAcquire? = none := by simp [Guard.tryAcquire?, hheld]
  simp only [runWith, Action.bind_apply, Action.get_apply, hguard]
  rfl

theorem runWith_of_held (host : Host) (confirm : Confirmer) (n : Nat) (chain : Chain)
    (options : RunOptions) (hheld : s.app.guard.held = true) :
    (host.runWith confirm n chain options s).1 = .skipped .alreadyRunning ∧
      WithEvents s (host.runWith confirm n chain options s).2 := by
  rw [runWith_held host confirm n chain options hheld]
  exact ⟨rfl, Action.debug_onlySays _ s⟩

/-- A run of which the guard is free takes it, and gives it back at the end. -/
theorem runWith_of_free {confirm : Confirmer} {n : Nat} {chain : Chain} {options : RunOptions}
    (hfree : s.app.guard.held = false) :
    host.runWith confirm n chain options s =
      let ran := host.runIfNeeded (courseOf confirm n chain options) chain (held s)
      (ran.1, released ran.2) := by
  have hguard : s.app.guard.tryAcquire? = some ⟨true⟩ := by simp [Guard.tryAcquire?, hfree]
  simp only [runWith, Action.bind_apply, Action.get_apply, hguard]
  rfl

/-- **A run has two parts.** If it is not skipped, it takes the guard, does what it does up to the
restoration and what it does from there on, and gives the guard back. -/
theorem runWith_eq {confirm : Confirmer} {n : Nat} {chain : Chain} {options : RunOptions}
    (hfree : s.app.guard.held = false) (hdirty : (s.document n).isDirty = true)
    (hchain : chain.ids ≠ []) (h : Slot.acquire s.app.settings (s.document n).language = .ok slot) :
    host.runWith confirm n chain options s =
      let course := courseOf confirm n chain options
      let stepped := host.upToRestore course chain slot (held s)
      let ended := fromRestore course (s.document n).text stepped.1 stepped.2
      (ended.1, released ended.2) := by
  have hneeded : host.runIfNeeded (courseOf confirm n chain options) chain (held s) =
      host.runChain (courseOf confirm n chain options) chain (held s) :=
    runIfNeeded_eq host _ hdirty hchain
  have hran := runChain_eq (s := held s) host (courseOf confirm n chain options) chain h
  rw [runWith_of_free hfree]
  simp only [hneeded, hran]
  rfl

/-- All that a run can come to. -/
inductive Ran (host : Host) (confirm : Confirmer) (n : Nat) (chain : Chain) (options : RunOptions)
    (s : Session) : RunReport → Session → Prop
  /-- Another run is going on. -/
  | alreadyRunning {s' : Session} (hheld : s.app.guard.held = true) (hsaid : WithEvents s s') :
      Ran host confirm n chain options s (.skipped .alreadyRunning) s'
  /-- There is nothing to save. -/
  | notDirty {said : Session} (hfree : s.app.guard.held = false)
      (hclean : (s.document n).isDirty = false) (hsaid : WithEvents (held s) said) :
      Ran host confirm n chain options s (.skipped .notDirty) (released said)
  /-- There are no formatters. -/
  | emptyChain {said : Session} (hfree : s.app.guard.held = false)
      (hdirty : (s.document n).isDirty = true) (hchain : chain.ids = [])
      (hsaid : WithEvents (held s) said) :
      Ran host confirm n chain options s (.skipped .emptyChain) (released said)
  /-- There is no scope at which a formatter could be named. -/
  | uncaptured {said : Session} {e : WriteError} (hfree : s.app.guard.held = false)
      (hdirty : (s.document n).isDirty = true) (hchain : chain.ids ≠ [])
      (hacquire : Slot.acquire s.app.settings (s.document n).language = .error e)
      (hsaid : WithEvents (held s) said) :
      Ran host confirm n chain options s
        ⟨.noChanges, [], false, some ⟨none, .settingRefused e⟩⟩ (released said)
  /-- The formatters run. -/
  | completed {slot : Slot} {stepping : Stepping} {stepped ended : Session} {report : RunReport}
      (hfree : s.app.guard.held = false) (hdirty : (s.document n).isDirty = true)
      (hchain : chain.ids ≠ [])
      (hacquire : Slot.acquire s.app.settings (s.document n).language = .ok slot)
      (hstepped : host.upToRestore (courseOf confirm n chain options) chain slot (held s) =
        (stepping, stepped))
      (hended :
        fromRestore (courseOf confirm n chain options) (s.document n).text stepping stepped =
          (report, ended)) :
      Ran host confirm n chain options s report (released ended)

/-- **A run comes to one of these ends.** -/
theorem runWith_ran (host : Host) (confirm : Confirmer) (n : Nat) (chain : Chain)
    (options : RunOptions) (s : Session) :
    Ran host confirm n chain options s (host.runWith confirm n chain options s).1
      (host.runWith confirm n chain options s).2 := by
  cases hheld : s.app.guard.held with
  | true =>
    obtain ⟨hskipped, hsaid⟩ := runWith_of_held host confirm n chain options hheld
    rw [hskipped]
    exact .alreadyRunning hheld hsaid
  | false =>
    cases hdirty : (s.document n).isDirty with
    | false =>
      obtain ⟨hskipped, hsaid⟩ := runIfNeeded_clean (s := held s) host
        (courseOf confirm n chain options) chain hdirty
      rw [runWith_of_free hheld]
      simp only [hskipped]
      exact .notDirty hheld hdirty hsaid
    | true =>
      by_cases hchain : chain.ids = []
      · obtain ⟨hskipped, hsaid⟩ := runIfNeeded_emptyChain (s := held s) host
          (courseOf confirm n chain options) hdirty hchain
        rw [runWith_of_free hheld]
        simp only [hskipped]
        exact .emptyChain hheld hdirty hchain hsaid
      · cases hacquire : Slot.acquire s.app.settings (s.document n).language with
        | error e =>
          obtain ⟨hreport, hsaid⟩ := runChain_uncaptured (s := held s) host
            (courseOf confirm n chain options) chain hacquire
          rw [runWith_of_free hheld, runIfNeeded_eq (s := held s) host
            (courseOf confirm n chain options) hdirty hchain]
          simp only [hreport]
          exact .uncaptured hheld hdirty hchain hacquire hsaid
        | ok slot =>
          rw [runWith_eq hheld hdirty hchain hacquire]
          exact .completed hheld hdirty hchain hacquire rfl rfl

end Host

end FormatChain
