import FormatChain.Proofs.Run.Folding
import FormatChain.Proofs.Run.Keeping

/-!
# Which formatter the editor takes

A run names a formatter, waits until it is seen to be active, and asks the editor to format; the
editor looks for itself which formatter is active.  Here a run also tells in which sessions it
asked.

* `Host.Asking`, `Host.askSteps`, `Host.runSteps_eq_askSteps` : running formatters, with the
  sessions in which the editor was asked.
* `Host.Told`, `Host.askSteps_told` : all that this can come to.
* `Host.FormatsWith` : the editor takes the formatter of an id, if there is one.
* `Host.run_asks_confirmed` : where a formatter was confirmed, the editor takes this one.
-/

namespace FormatChain

open FormatChain.Json
open FormatChain.Session (WithEvents)
open FormatChain.Settings (Scope Layer PerScope)

namespace Host

variable {host : Host} {course : Course} {n : Nat} {slot slot' : Slot} {index : Nat} {id : String}
  {fingerprint : Fingerprint} {s s' : Session} {R : Session → Session → Prop}

/-! ## Runs that tell when they asked -/

/-- The step of a formatter, the session in which it was named, and the one in which the editor was
asked to format. -/
structure Asking where
  /-- The report of the step. -/
  step : StepReport
  /-- The session after the formatter was named. -/
  named : Session
  /-- The session in which the editor was asked. -/
  asked : Session

/-- What a step does before the editor is asked: it sleeps and looks whether the formatter is
active. -/
def prepareStep (host : Host) (course : Course) (slot : Slot) (id : String) : Action Bool := do
  host.sleep course.options.delay
  let confirmed ← course.confirm slot id course.options.activation
  unless confirmed do
    Action.warn (s!"Could not confirm '{id}' became the active formatter after "
      ++ s!"{course.options.activation.attempts} attempts. Formatting anyway.")
  return confirmed

/-- A step that tells when it asked. -/
def askStep (host : Host) (course : Course) (slot : Slot) (index : Nat) (id : String)
    (before : Fingerprint) : Action (Asking × Fingerprint) := do
  let named ← get
  let confirmed ← host.prepareStep course slot id
  let asked ← get
  let result ← (host.formatDocument course.document).run
  let (step, after) ← host.concludeStep course index id before confirmed result
  return (⟨step, named, asked⟩, after)

theorem runStep_eq_askStep (host : Host) (course : Course) (slot : Slot) (index : Nat)
    (id : String) (before : Fingerprint) (s : Session) :
    host.runStep course slot index id before s =
      let asked := host.askStep course slot index id before s
      ((asked.1.1.step, asked.1.2), asked.2) := by
  simp only [runStep, askStep, prepareStep, Action.bind_apply, Action.get_apply]
  rcases course.confirm slot id course.options.activation
    (host.sleep course.options.delay s).2 with ⟨_ | _, seen⟩
  · rfl
  · rfl

/-- Lets the formatters run one after the other, and tells when the editor was asked. -/
def askSteps (host : Host) (course : Course) :
    Nat → List String → Slot → Fingerprint → Action (Stepping × List Asking)
  | _, [], slot, _ => return ({ slot }, [])
  | index, id :: rest, slot, before => do
    if (← get).cancelled then
      Action.debug s!"Cancelled before step {index + 1}/{course.length} ({id})."
      return ({ cancelled := true, slot }, [])
    else
      Action.debug s!"Step {index + 1}/{course.length}: {id}"
      match ← activate slot id with
      | .error cause => return ({ failure := some ⟨some id, cause⟩, slot }, [])
      | .ok slot =>
        let (asking, after) ← host.askStep course slot index id before
        match ← saveAfterStep course id with
        | some failure =>
          return ({ steps := [asking.step], failure := some failure, slot }, [asking])
        | none =>
          let (others, askings) ← host.askSteps course (index + 1) rest slot after
          return ({ others with steps := asking.step :: others.steps }, asking :: askings)

/-- **Telling when the editor was asked changes nothing.** -/
theorem runSteps_eq_askSteps (host : Host) (course : Course) (ids : List String) (index : Nat)
    (slot : Slot) (before : Fingerprint) (s : Session) :
    host.runSteps course index ids slot before s =
      let asked := host.askSteps course index ids slot before s
      (asked.1.1, asked.2) := by
  induction ids generalizing index slot before s with
  | nil => rfl
  | cons id rest ih =>
    rw [runSteps, askSteps, Action.bind_apply, Action.bind_apply, Action.get_apply]
    by_cases hcancelled : s.cancelled = true
    · rw [if_pos hcancelled, if_pos hcancelled]
      rfl
    · rw [if_neg hcancelled, if_neg hcancelled]
      simp only [Action.bind_apply]
      generalize (Action.debug s!"Step {index + 1}/{course.length}: {id}" s).2 = announced
      rcases activate slot id announced with ⟨cause | slot', named⟩
      · rfl
      · simp only [Action.bind_apply, runStep_eq_askStep]
        generalize host.askStep course slot' index id before named = stepped
        rcases saveAfterStep course id stepped.2 with ⟨_ | failure, saved⟩
        · simp only [Action.bind_apply, ih]
          rfl
        · rfl

/-- All that running formatters can come to, told with the sessions in which the editor was asked:
what is to run, what came of it, and the session at the end. -/
inductive Told (host : Host) (course : Course) :
    Nat → List String → Slot → Fingerprint → Session → Stepping × List Asking → Session → Prop
  /-- No formatter is left. -/
  | done {index : Nat} {slot : Slot} {fingerprint : Fingerprint} {s : Session} :
      Told host course index [] slot fingerprint s ({ slot }, []) s
  /-- The person wants it to stop. -/
  | cancelled {index : Nat} {id : String} {rest : List String} {slot : Slot}
      {fingerprint : Fingerprint} {s s' : Session} (hcancelled : s.cancelled = true)
      (hsaid : WithEvents s s') :
      Told host course index (id :: rest) slot fingerprint s ({ cancelled := true, slot }, []) s'
  /-- The formatter cannot be named. -/
  | refused {index : Nat} {id : String} {rest : List String} {slot : Slot}
      {fingerprint : Fingerprint} {s s' : Session} {e : Settings.WriteError}
      (hgoing : s.cancelled = false) (hactivate : slot.activate id s.app.settings = .error e)
      (hsaid : WithEvents s s') :
      Told host course index (id :: rest) slot fingerprint s
        ({ failure := some ⟨some id, .settingRefused e⟩, slot }, []) s'
  /-- The formatter has its step, and saving after it is refused. -/
  | unsaved {index : Nat} {id : String} {rest : List String} {slot slot' : Slot}
      {fingerprint fingerprint' : Fingerprint} {settings : Settings} {asking : Asking}
      {s announced stepped s' : Session} {cause : Failure}
      (hgoing : s.cancelled = false) (hannounced : WithEvents s announced)
      (hactivate : slot.activate id s.app.settings = .ok (slot', settings))
      (hasked : host.askStep course slot' index id fingerprint
        { announced with app := { announced.app with settings } } =
          ((asking, fingerprint'), stepped))
      (hsave : SavedIf course.document (SavesAfterStep course stepped) stepped (some cause) s') :
      Told host course index (id :: rest) slot fingerprint s
        ({ steps := [asking.step], failure := some ⟨some id, cause⟩, slot := slot' }, [asking]) s'
  /-- The formatter has its step, and the others have theirs. -/
  | goesOn {index : Nat} {id : String} {rest : List String} {slot slot' : Slot}
      {fingerprint fingerprint' : Fingerprint} {settings : Settings} {asking : Asking}
      {s announced stepped saved s' : Session} {others : Stepping × List Asking}
      (hgoing : s.cancelled = false) (hannounced : WithEvents s announced)
      (hactivate : slot.activate id s.app.settings = .ok (slot', settings))
      (hasked : host.askStep course slot' index id fingerprint
        { announced with app := { announced.app with settings } } =
          ((asking, fingerprint'), stepped))
      (hsave : SavedIf course.document (SavesAfterStep course stepped) stepped none saved)
      (hrest : Told host course (index + 1) rest slot' fingerprint' saved others s') :
      Told host course index (id :: rest) slot fingerprint s
        ({ others.1 with steps := asking.step :: others.1.steps }, asking :: others.2) s'

/-- **Running formatters and telling of it comes to one of these ends.** -/
theorem askSteps_told (host : Host) (course : Course) (ids : List String) (index : Nat)
    (slot : Slot) (before : Fingerprint) (s : Session) :
    Told host course index ids slot before s (host.askSteps course index ids slot before s).1
      (host.askSteps course index ids slot before s).2 := by
  induction ids generalizing index slot before s with
  | nil => exact .done
  | cons id rest ih =>
    rw [askSteps, Action.bind_apply, Action.get_apply]
    cases hcancelled : s.cancelled with
    | true =>
      rw [if_pos rfl]
      exact .cancelled hcancelled (Action.debug_onlySays _ s)
    | false =>
      rw [if_neg Bool.false_ne_true, Action.bind_apply]
      have hannounced := Action.debug_onlySays s!"Step {index + 1}/{course.length}: {id}" s
      generalize (Action.debug s!"Step {index + 1}/{course.length}: {id}" s).2 = announced
        at hannounced ⊢
      have hsettings : announced.app.settings = s.app.settings := by rw [hannounced.app]
      rw [Action.bind_apply]
      cases hactivate : slot.activate id s.app.settings with
      | error e =>
        rw [activate_error (hsettings ▸ hactivate)]
        exact .refused hcancelled hactivate ((Action.error_onlySays _).after hannounced)
      | ok named =>
        obtain ⟨slot', settings⟩ := named
        rw [activate_ok (hsettings ▸ hactivate)]
        simp only [Action.bind_apply]
        rcases hasked : host.askStep course slot' index id before
          { announced with app := { announced.app with settings } } with ⟨⟨asking, after⟩, stepped⟩
        rcases hsaved : saveAfterStep course id stepped with ⟨failure, saved⟩
        obtain ⟨cause, rfl, hsave⟩ := saveAfterStep_savedIf hsaved
        cases cause with
        | some cause => exact .unsaved hcancelled hannounced hactivate hasked hsave
        | none =>
          exact .goesOn hcancelled hannounced hactivate hasked hsave
            (ih (index + 1) slot' after saved)

/-- The steps of which it is told are those of the report. -/
theorem Told.steps {ids : List String} {told : Stepping × List Asking}
    (h : Told host course index ids slot fingerprint s told s') :
    told.2.map Asking.step = told.1.steps := by
  induction h with
  | done | cancelled _ _ | refused _ _ _ | unsaved _ _ _ _ _ => rfl
  | goesOn _ _ _ _ _ _ ih => rw [List.map_cons, ih]

/-- **What holds whenever the editor is asked.**  It is enough that it holds of each step of a
formatter on the chain, and that a step, and a save after it, bring what the next step needs. -/
theorem Told.forall {I : Slot → Session → Prop} {P : Asking → Prop} (chain : List String)
    (hstep : ∀ slot slot' s announced settings index id fingerprint, id ∈ chain →
      WithEvents s announced → slot.activate id s.app.settings = .ok (slot', settings) →
      I slot s →
      let told := host.askStep course slot' index id fingerprint
        { announced with app := { announced.app with settings } }
      P told.1.1 ∧ I slot' told.2)
    (hsave : ∀ slot s s' wanted, I slot s → SavedIf course.document wanted s none s' → I slot s')
    {ids : List String} (hids : ∀ id ∈ ids, id ∈ chain) {told : Stepping × List Asking}
    (h : Told host course index ids slot fingerprint s told s') (hI : I slot s) :
    ∀ asking ∈ told.2, P asking := by
  induction h with
  | done | cancelled _ _ | refused _ _ _ => simp
  | @unsaved index id _ _ _ fingerprint _ _ _ _ _ _ _ _ _ hannounced hactivate hasked _ =>
    have hfirst := hstep _ _ _ _ _ index id fingerprint (hids _ List.mem_cons_self) hannounced
      hactivate hI
    rw [hasked] at hfirst
    exact fun asking hmem => List.mem_singleton.1 hmem ▸ hfirst.1
  | @goesOn index id _ _ _ fingerprint _ _ _ _ _ _ _ _ _ _ hannounced hactivate hasked hsaved _
      ih =>
    have hfirst := hstep _ _ _ _ _ index id fingerprint (hids _ List.mem_cons_self) hannounced
      hactivate hI
    rw [hasked] at hfirst
    intro asking hmem
    rcases List.mem_cons.1 hmem with rfl | hmem
    · exact hfirst.1
    · exact ih (fun id hid => hids id (List.mem_cons_of_mem _ hid))
        (hsave _ _ _ _ hfirst.2 hsaved) asking hmem

/-! ## What the editor takes -/

/-- What the editor does once it has chosen a formatter. -/
def formatWith (formatter : Formatter) (n : Nat) : Attempt Unit := do
  let d ← Action.document n
  warnAboutUnsaved formatter d
  let output ← formatter.format (requestFor d)
  takeOutput n output
  if output = .unchanged then
    Action.debug s!"Formatter '{formatter.id}' made no changes."
  else
    Action.debug s!"{d.path.text} is at version {(← Action.document n).version}."

/-- The editor takes the formatter of the id; or, if there is none, it takes none at all and says
so. -/
def FormatsWith (host : Host) (n : Nat) (id : String) (s : Session) : Prop :=
  match host.formatters.get? id with
  | some formatter => (host.formatDocument n).run s = (formatWith formatter n).run s
  | none => (host.formatDocument n).run s = (.error (.formatterMissing id), s)

/-- The editor takes the formatter that is active. -/
theorem formatsWith_of_active
    (h : activeFormatter s.app.settings (s.document n).language = .ok id) :
    host.FormatsWith n id s := by
  rw [FormatsWith]
  have hchoose : host.chooseFormatter s.app.settings (s.document n).language =
      match host.formatters.get? id with
      | some formatter => .ok formatter
      | none => .error (.formatterMissing id) := by
    rw [chooseFormatter, h]
    rfl
  cases hget : host.formatters.get? id with
  | none =>
    rw [hget] at hchoose
    simp only [formatDocument, Attempt.run_lift_bind, Action.document_apply, Action.settings_apply]
    rw [hchoose, Attempt.run_bind_error (Attempt.run_mk_pure _ s)]
  | some formatter =>
    rw [hget] at hchoose
    simp only [formatDocument, formatWith, Attempt.run_lift_bind, Action.document_apply,
      Action.settings_apply]
    rw [hchoose, Attempt.run_bind_ok (Attempt.run_mk_pure _ s), Attempt.run_lift_bind]
    rfl

/-! ## Looking -/

theorem value?_of_isActive {settings : Settings} (h : slot.isActive id settings = true) :
    settings.value? Settings.Key.defaultFormatter (some slot.language) = some (.string id) := by
  rw [Slot.isActive, beq_iff_eq, Slot.active?] at h
  split at h
  · next hvalue =>
    obtain rfl := Option.some.inj h
    exact hvalue
  · exact absurd h (by simp)

theorem see_value (slot : Slot) (id : String) (before : Nat) (s : Session) :
    (see slot id before s).1 = slot.isActive id s.app.settings := by
  rw [see, Action.bind_apply, Action.settings_apply]
  dsimp only
  split <;> rfl

/-- A formatter that was seen is active. -/
theorem isActive_of_look {interval before more : Nat}
    (h : (host.look slot id interval before more s).1 = true) :
    slot.isActive id (host.look slot id interval before more s).2.app.settings = true := by
  have hsee : ∀ before s, (see slot id before s).1 = true →
      slot.isActive id (see slot id before s).2.app.settings = true := by
    intro before s hseen
    rw [(see_leads Session.withEvents_allowsWords slot id before s).app, ← see_value slot id before]
    exact hseen
  induction more generalizing before s with
  | zero => exact hsee before s h
  | succ more ih =>
    rw [look, Action.bind_apply] at h ⊢
    by_cases hseen : (see slot id before s).1 = true
    · rw [if_pos hseen]
      exact hsee before s hseen
    · rw [if_neg hseen, Action.bind_apply] at h ⊢
      exact ih h

theorem isActive_of_poll {policy : ActivationPolicy}
    (h : (host.poll slot id policy s).1 = true) :
    slot.isActive id (host.poll slot id policy s).2.app.settings = true := by
  obtain ⟨_ | more, interval⟩ := policy
  · exact absurd h Bool.false_ne_true
  · exact isActive_of_look h

/-- A formatter that is active is seen at the first look. -/
theorem poll_of_isActive {policy : ActivationPolicy} (hattempts : 0 < policy.attempts)
    (h : slot.isActive id s.app.settings = true) : host.poll slot id policy s = (true, s) := by
  have hsee : see slot id 0 s = (true, s) := by
    rw [see, Action.bind_apply, Action.settings_apply]
    simp only [h]
    rfl
  obtain ⟨_ | _ | more, interval⟩ := policy
  · exact absurd hattempts (Nat.lt_irrefl 0)
  · exact hsee
  · change host.look slot id interval 0 (more + 1) s = _
    rw [look, Action.bind_apply, hsee]
    rfl

/-! ## Steps -/

theorem concludeStep_confirmed (host : Host) (course : Course) (index : Nat) (id : String)
    (before : Fingerprint) (confirmed : Bool) (result : Except Failure Unit) (s : Session) :
    (host.concludeStep course index id before confirmed result s).1.1.confirmed = confirmed := by
  cases result <;> rfl

theorem concludeStep_formatter (host : Host) (course : Course) (index : Nat) (id : String)
    (before : Fingerprint) (confirmed : Bool) (result : Except Failure Unit) (s : Session) :
    (host.concludeStep course index id before confirmed result s).1.1.formatter = id := by
  cases result <;> rfl

/-- A step tells its formatter, and the session in which it starts. -/
theorem askStep_tells {fingerprint' : Fingerprint} {asking : Asking}
    (h : host.askStep course slot index id fingerprint s = ((asking, fingerprint'), s')) :
    asking.step.formatter = id ∧ asking.named = s := by
  have htold := congrArg (fun told => told.1.1) h
  rw [← show (host.askStep course slot index id fingerprint s).1.1 = asking from htold]
  exact ⟨concludeStep_formatter .., rfl⟩

/-- Before the editor is asked there are only sleeps, looks and remarks, and a formatter that was
confirmed is active. -/
theorem prepareStep_spec [IsPreorder Session R] (hidles : host.Idles R)
    (hconfirm : course.confirm = host.poll) (slot : Slot) (id : String) (s : Session) :
    let prepared := host.prepareStep course slot id s
    R s prepared.2 ∧
      (prepared.1 = true → slot.isActive id prepared.2.app.settings = true) := by
  have hslept := hidles.sleep course.options.delay s
  simp only [prepareStep, hconfirm, Action.bind_apply]
  generalize (host.sleep course.options.delay s).2 = slept at hslept ⊢
  have hseen := (hidles.poll slot id course.options.activation).after hslept
  have hpolled : (host.poll slot id course.options.activation slept).1 = true →
      slot.isActive id (host.poll slot id course.options.activation slept).2.app.settings =
        true := isActive_of_poll
  generalize host.poll slot id course.options.activation slept = polled at hseen hpolled
  obtain ⟨_ | _, seen⟩ := polled
  · exact ⟨(hidles.of_onlySays (Action.warn_onlySays _)).after hseen,
      fun h => absurd h Bool.false_ne_true⟩
  · exact ⟨hseen, hpolled⟩

/-- A step lets the editor format in the session that it tells.  Before and after it there are only
sleeps, looks and remarks. -/
theorem askStep_around [IsPreorder Session R] (hidles : host.Idles R)
    (hconfirm : course.confirm = host.poll) (slot : Slot) (index : Nat) (id : String)
    (fingerprint : Fingerprint) (s : Session) :
    let told := host.askStep course slot index id fingerprint s
    R s told.1.1.asked ∧
      R ((host.formatDocument course.document).run told.1.1.asked).2 told.2 ∧
      told.1.1.named = s ∧ told.1.1.step.formatter = id ∧
      told.1.1.step.failure =
        failure? ((host.formatDocument course.document).run told.1.1.asked).1 ∧
      (told.1.1.step.confirmed = true →
        slot.isActive id told.1.1.asked.app.settings = true) := by
  obtain ⟨hasked, hactive⟩ := prepareStep_spec hidles hconfirm slot id s
  simp only [askStep, Action.bind_apply, Action.get_apply]
  generalize host.prepareStep course slot id s = prepared at hasked hactive ⊢
  obtain ⟨confirmed, asked⟩ := prepared
  obtain ⟨hended, hid, hfailure⟩ := concludeStep_spec
    (s := ((host.formatDocument course.document).run asked).2) hidles course index id
    fingerprint confirmed ((host.formatDocument course.document).run asked).1
  have hconfirmed := concludeStep_confirmed host course index id fingerprint confirmed
    ((host.formatDocument course.document).run asked).1
    ((host.formatDocument course.document).run asked).2
  exact ⟨hasked, hended, rfl, hid, hfailure, fun h => hactive (hconfirmed.symm.trans h)⟩

/-- What a step comes to when the editor is asked in the session that it tells. -/
theorem askStep_spec [IsPreorder Session R] (hcovers : host.Covers course.document R)
    (hconfirm : course.confirm = host.poll) (slot : Slot) (index : Nat) (id : String)
    (fingerprint : Fingerprint) (s : Session) :
    let told := host.askStep course slot index id fingerprint s
    R s told.1.1.asked ∧ R s told.2 ∧ told.1.1.named = s ∧ told.1.1.step.formatter = id ∧
      told.1.1.step.failure =
        failure? ((host.formatDocument course.document).run told.1.1.asked).1 ∧
      (told.1.1.step.confirmed = true →
        slot.isActive id told.1.1.asked.app.settings = true) := by
  obtain ⟨hasked, hended, hrest⟩ :=
    askStep_around hcovers.idles hconfirm slot index id fingerprint s
  have hformatted := hcovers.formatted (formatDocument_formatted host course.document
    (host.askStep course slot index id fingerprint s).1.1.asked)
  exact ⟨hasked, IsTrans.trans _ _ _ hasked (IsTrans.trans _ _ _ hformatted hended), hrest⟩

/-- A formatter that is active when it was named is confirmed at the first look. -/
theorem askStep_of_isActive (hconfirm : course.confirm = host.poll)
    (hattempts : 0 < course.options.activation.attempts)
    (hactive : slot.isActive id (host.sleep course.options.delay s).2.app.settings = true) :
    let told := host.askStep course slot index id fingerprint s
    told.1.1.step.confirmed = true ∧
      told.1.1.asked = (host.sleep course.options.delay s).2 := by
  have hprepared : host.prepareStep course slot id s =
      (true, (host.sleep course.options.delay s).2) := by
    rw [prepareStep, Action.bind_apply, Action.bind_apply, hconfirm,
      poll_of_isActive hattempts hactive]
    rfl
  simp only [askStep, Action.bind_apply, Action.get_apply, hprepared]
  exact ⟨concludeStep_confirmed .., rfl⟩

/-! ## Whole runs -/

/-- The part of a run up to the restoration, with the sessions in which the editor was asked. -/
def askUpToRestore (host : Host) (course : Course) (chain : Chain) (slot : Slot) :
    Action (Stepping × List Asking) := do
  let d ← Action.document course.document
  Action.debug (s!"Running {chain.text} for {d.path.text} ({d.language}). "
    ++ s!"Active formatter at {slot.scope.name} scope was {settingShown slot.found}.")
  host.askSteps course 0 chain.ids slot (Fingerprint.of d.text)

theorem upToRestore_eq_askUpToRestore (host : Host) (course : Course) (chain : Chain)
    (slot : Slot) (s : Session) :
    host.upToRestore course chain slot s =
      let asked := host.askUpToRestore course chain slot s
      (asked.1.1, asked.2) := by
  simp only [upToRestore, askUpToRestore, Action.bind_apply, runSteps_eq_askSteps]

theorem askUpToRestore_told (host : Host) (course : Course) (chain : Chain) (slot : Slot)
    (s : Session) :
    ∃ announced, WithEvents s announced ∧
      Told host course 0 chain.ids slot (Fingerprint.of (s.document course.document).text)
        announced (host.askUpToRestore course chain slot s).1
        (host.askUpToRestore course chain slot s).2 := by
  simp only [askUpToRestore, Action.bind_apply, Action.document_apply]
  exact ⟨_, Action.debug_onlySays _ s, askSteps_told host course chain.ids 0 slot _ _⟩

/-- The steps of a run, with the sessions in which the editor was asked. -/
def askings (host : Host) (n : Nat) (chain : Chain) (options : RunOptions) (s : Session) :
    List Asking :=
  if s.app.guard.held || !(s.document n).isDirty || chain.isEmpty then []
  else
    match Slot.acquire s.app.settings (s.document n).language with
    | .error _ => []
    | .ok slot =>
      (host.askUpToRestore (courseOf host.poll n chain options) chain slot (held s)).1.2

/-- The askings of a run that is not skipped are told up to the restoration. -/
theorem askings_told (host : Host) {n : Nat} {chain : Chain} (options : RunOptions) {scope : Scope}
    (hfree : s.app.guard.held = false) (hdirty : (s.document n).isDirty = true)
    (hchain : chain.ids ≠ []) (hscope : s.app.settings.narrowestScope? = some scope) :
    let stepped := host.upToRestoration n chain options scope s
    ∃ announced, WithEvents (held s) announced ∧
      Told host (courseOf host.poll n chain options) 0 chain.ids
        (.at s.app.settings scope (s.document n).language) (Fingerprint.of (s.document n).text)
        announced (stepped.1, host.askings n chain options s) stepped.2 := by
  have hempty : chain.isEmpty = false := by simpa [Chain.isEmpty] using hchain
  have htells : host.askings n chain options s =
      (host.askUpToRestore (courseOf host.poll n chain options) chain
        (.at s.app.settings scope (s.document n).language) (held s)).1.2 := by
    simp only [askings, hfree, hdirty, hempty, Slot.acquire_of_narrowest hscope, Bool.not_true,
      Bool.or_false, Bool.false_eq_true, if_false]
  rw [upToRestoration, upToRestore_eq_askUpToRestore, htells]
  exact askUpToRestore_told host (courseOf host.poll n chain options) chain
    (.at s.app.settings scope (s.document n).language) (held s)

/-- A run that asks starts at the narrowest scope, and reports the steps that it tells. -/
theorem askings_cases (host : Host) (n : Nat) (chain : Chain) (options : RunOptions)
    (s : Session) :
    (host.run n chain options s).1.steps = [] ∧ host.askings n chain options s = [] ∨
      ∃ scope announced told, s.app.settings.narrowestScope? = some scope ∧
        WithEvents (held s) announced ∧
        Told host (courseOf host.poll n chain options) 0 chain.ids
          (.at s.app.settings scope (s.document n).language)
          (Fingerprint.of (s.document n).text) announced told
          (host.upToRestoration n chain options scope s).2 ∧
        host.askings n chain options s = told.2 ∧
        (host.run n chain options s).1.steps = told.1.steps := by
  have hran := runWith_ran host host.poll n chain options s
  change Ran _ _ _ _ _ _ (host.run n chain options s).1 (host.run n chain options s).2 at hran
  generalize (host.run n chain options s).1 = report at hran ⊢
  generalize (host.run n chain options s).2 = ended at hran
  cases hran with
  | alreadyRunning hheld _ => exact .inl ⟨rfl, by simp [askings, hheld]⟩
  | notDirty _ hclean _ => exact .inl ⟨rfl, by simp [askings, hclean]⟩
  | emptyChain _ _ hempty _ => exact .inl ⟨rfl, by simp [askings, Chain.isEmpty, hempty]⟩
  | uncaptured hfree hdirty hchain hacquire _ =>
    exact .inl ⟨rfl, by simp [askings, hacquire]⟩
  | @completed slot stepping stepped ended report hfree hdirty hchain hacquire hstepped hended =>
    obtain ⟨scope, hscope, rfl⟩ := Slot.acquire_eq_ok_iff.1 hacquire
    obtain ⟨announced, hannounced, htold⟩ := askings_told host options hfree hdirty hchain hscope
    obtain ⟨cause, saved, -, -, hreport⟩ :=
      fromRestore_cases (courseOf host.poll n chain options) (s.document n).text stepping stepped
    rw [hended] at hreport
    refine .inr ⟨scope, announced, _, hscope, hannounced, htold, rfl, ?_⟩
    rw [show report.steps = stepping.steps from congrArg RunReport.steps hreport]
    exact congrArg (fun ran => ran.1.steps) hstepped.symm

/-- The steps of a run are those that it tells. -/
theorem run_steps_askings (host : Host) (n : Nat) (chain : Chain) (options : RunOptions)
    (s : Session) :
    (host.run n chain options s).1.steps = (host.askings n chain options s).map Asking.step := by
  rcases askings_cases host n chain options s with
    ⟨hsteps, hnone⟩ | ⟨scope, announced, told, -, -, htold, htells, hsteps⟩
  · rw [hsteps, hnone]
    rfl
  · rw [hsteps, htells, htold.steps]

/-- Nobody else changes the language of the document. -/
def KeepsLanguage (host : Host) (n : Nat) : Prop :=
  ∀ s s', host.Others s s' → (s'.document n).language = (s.document n).language

/-- The document has the same language in both sessions. -/
def SameLanguage (n : Nat) (s s' : Session) : Prop :=
  (s'.document n).language = (s.document n).language

instance : IsPreorder Session (SameLanguage n) where
  refl _ := rfl
  trans _ _ _ h h' := Eq.trans h' h

theorem KeepsLanguage.covers (h : host.KeepsLanguage n) : host.Covers n (SameLanguage n) where
  saying _ _ hsaid := by rw [SameLanguage, hsaid.document]
  others := h
  change s d hd := by simpa [SameLanguage] using hd
  write _ _ := rfl

/-- While the slot is about the language of the document, a formatter that was confirmed is the one
that the editor takes. -/
theorem formatsWith_of_confirmed (course : Course) (slot : Slot) (index : Nat)
    (fingerprint : Fingerprint) (s : Session) (hlanguage : host.KeepsLanguage course.document)
    (hconfirm : course.confirm = host.poll) (hid : isReservedId id = false)
    (hslot : slot.language = (s.document course.document).language) :
    let told := host.askStep course slot index id fingerprint s
    told.1.1.step.formatter = id ∧
      told.1.1.step.failure =
        failure? ((host.formatDocument course.document).run told.1.1.asked).1 ∧
      (told.1.1.step.confirmed = true →
        host.FormatsWith course.document id told.1.1.asked) ∧
      slot.language = (told.2.document course.document).language := by
  obtain ⟨hasked, hended, -, hformatter, hfailure, hactive⟩ :=
    askStep_spec hlanguage.covers hconfirm slot index id fingerprint s
  refine ⟨hformatter, hfailure, fun hconfirmed => formatsWith_of_active ?_,
    hslot.trans hended.symm⟩
  rw [hasked, ← hslot]
  exact activeFormatter_of_value? (value?_of_isActive (hactive hconfirmed)) hid

/-- A formatter that was named at the narrowest scope is confirmed at the first look, as long as
nobody else changes the settings. -/
theorem confirmed_of_named (course : Course) (slot : Slot) (index : Nat)
    (fingerprint : Fingerprint) (s : Session) (hkeeps : host.KeepsSettings)
    (hconfirm : course.confirm = host.poll) (hattempts : 0 < course.options.activation.attempts)
    (hscope : s.app.settings.narrowestScope? = some slot.scope)
    (hnamed : s.app.settings.raw? slot.scope Settings.Key.defaultFormatter (some slot.language) =
      some (.string id)) :
    let told := host.askStep course slot index id fingerprint s
    (told.1.1.step.confirmed = true ∧
      told.1.1.asked = (host.sleep course.options.delay told.1.1.named).2) ∧
    told.2.app.settings.narrowestScope? = some slot.scope := by
  have hcovers := hkeeps.covers course.document
  obtain ⟨-, hended, hsame, -⟩ := askStep_spec hcovers hconfirm slot index id fingerprint s
  have hslept := hcovers.idles.sleep course.options.delay s
  have hactive : slot.isActive id (host.sleep course.options.delay s).2.app.settings = true := by
    rw [hslept, Slot.isActive, Slot.active?, Settings.value?_of_raw?_narrowest hscope hnamed]
    simp
  intro told
  refine ⟨?_, by rw [hended]; exact hscope⟩
  rw [hsame]
  exact askStep_of_isActive hconfirm hattempts hactive

/-- **Where a formatter was confirmed the editor takes this one.**  Let nobody else change the
language of the document.  In each session in which a run asks the editor to format, the step of the
report fails exactly as the editor does; and if the formatter was confirmed, the editor takes the
formatter of this id, which is not the program's own, or fails because there is none.  If nobody
else changes the settings, and a run looks at least once, then every formatter is confirmed at the
first look. -/
theorem run_asks_confirmed {host : Host} {n : Nat} (hlanguage : host.KeepsLanguage n)
    (chain : Chain) (options : RunOptions) (s : Session) :
    let askings := host.askings n chain options s
    (host.run n chain options s).1.steps = askings.map Asking.step ∧
      (∀ asking ∈ askings,
        asking.step.failure = failure? ((host.formatDocument n).run asking.asked).1 ∧
        (asking.step.confirmed = true → isReservedId asking.step.formatter = false ∧
          host.FormatsWith n asking.step.formatter asking.asked)) ∧
      (host.KeepsSettings → 0 < options.activation.attempts → ∀ asking ∈ askings,
        asking.step.confirmed = true ∧
          asking.asked = (host.sleep options.delay asking.named).2) := by
  intro askings
  rcases askings_cases host n chain options s with
    ⟨hsteps, hnone⟩ | ⟨scope, announced, told, hscope, hannounced, htold, htells, hsteps⟩
  · change askings = [] at hnone
    rw [hsteps, hnone]
    simp
  · change askings = told.2 at htells
    rw [hsteps, htells, htold.steps]
    refine ⟨rfl, ?_, fun hkeeps hattempts => ?_⟩
    · have hlanguages := hlanguage.covers
      refine htold.forall chain.ids (I := fun slot s => slot.language = (s.document n).language)
        ?_ ?_ (fun _ h => h) ?_
      · intro slot slot' s announced settings index id fingerprint hmem hsaid hactivate hslot
        obtain ⟨rfl, -⟩ := Slot.activate_eq_ok_iff.1 hactivate
        have hid := chain.unreserved id hmem
        have hstep := formatsWith_of_confirmed (courseOf host.poll n chain options)
          { slot with modified := true } index fingerprint
          { announced with app := { announced.app with settings } } hlanguage rfl hid
          (hslot.trans (congrArg Document.language (hsaid.document n)).symm)
        obtain ⟨hformatter, hfailure, hformats, hlast⟩ := hstep
        exact ⟨⟨hfailure, fun hconfirmed => by
          rw [hformatter]
          exact ⟨hid, hformats hconfirmed⟩⟩, hlast⟩
      · intro slot s s' wanted hslot hsaved
        exact hslot.trans (hlanguages.savedIf hsaved).symm
      · exact (congrArg Document.language (hannounced.document n)).symm
    · refine htold.forall chain.ids
        (I := fun slot s => s.app.settings.narrowestScope? = some slot.scope) ?_ ?_
        (fun _ h => h) ?_
      · intro slot slot' s announced settings index id fingerprint _ _ hactivate hslot
        obtain ⟨rfl, hset⟩ := Slot.activate_eq_ok_iff.1 hactivate
        exact confirmed_of_named (courseOf host.poll n chain options)
          { slot with modified := true } index fingerprint
          { announced with app := { announced.app with settings } } hkeeps rfl hattempts
          ((Settings.narrowestScope?_setRaw hset).trans hslot)
          ((Settings.raw?_setRaw hset _ _ _).trans (if_pos ⟨rfl, rfl, rfl⟩))
      · intro slot s s' wanted hslot hsaved
        rw [hsaved.app]
        exact hslot
      · rw [hannounced.app]
        exact hscope

/-- A formatter that there is formats, and one that there is not is missed, although the person's
own settings name a third one. -/
theorem run_asks_confirmed_and_missing :
    let formatter : Formatter :=
      { id := "fmtA", onDisk := false, format := fun _ => pure (.text "b") }
    let host : Host := ⟨.ofFormatters [formatter], fun _ => pure ()⟩
    let chain : Chain := ⟨["fmtA", "gone"], by decide⟩
    let options : RunOptions := ⟨50, false, true, ⟨3, 10⟩⟩
    let global : Layer := { Layer.empty with
      general := .ofEntries [("editor.defaultFormatter", .string "global.tool")] }
    let s : Session :=
      { app := { settings := { layers := { global := some global, workspace := some .empty } } }
        documents := [⟨⟨"/project/a.rs"⟩, "rust", "a", none, .memory, 1⟩] }
    host.KeepsLanguage 0 ∧ host.KeepsSettings ∧ 0 < options.activation.attempts ∧
      (host.askings 0 chain options s).map (·.step.formatter) = ["fmtA", "gone"] ∧
      ∀ asking ∈ host.askings 0 chain options s,
        asking.step.confirmed = true ∧ isReservedId asking.step.formatter = false ∧
          host.FormatsWith 0 asking.step.formatter asking.asked := by
  intro formatter host chain options global s
  have hothers : ∀ s s', host.Others s s' → s' = s := by
    rintro _ _ (⟨s, millis⟩ | ⟨hget, request, s⟩)
    · rfl
    · obtain rfl := List.mem_singleton.1 (Registry.mem_of_get? hget)
      rfl
  have hlanguage : host.KeepsLanguage 0 := fun s s' h => by rw [hothers s s' h]
  have hkeeps : host.KeepsSettings := fun s s' h => by rw [hothers s s' h]; rfl
  obtain ⟨hsteps, htrue, hfirst⟩ := run_asks_confirmed hlanguage chain options s
  refine ⟨hlanguage, hkeeps, by decide, ?_, fun asking hmem => ?_⟩
  · have hformatters : (host.run 0 chain options s).1.steps.map StepReport.formatter =
        ["fmtA", "gone"] := rfl
    rw [hsteps, List.map_map] at hformatters
    exact hformatters
  · have hconfirmed := (hfirst hkeeps (by decide) asking hmem).1
    exact ⟨hconfirmed, (htrue asking hmem).2 hconfirmed⟩

end Host

end FormatChain
