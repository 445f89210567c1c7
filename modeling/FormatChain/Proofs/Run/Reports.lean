import FormatChain.Proofs.Run.Asking
import FormatChain.Proofs.Session.Guards

/-!
# What a report says

A run ends in a number of ways, and its report says in which: by the formatters that had their
steps, by whether it was cancelled, by the failure that ended it, and by the edit.  Whatever the
formatters and those who are active meanwhile do, only some of these go together.

* `Host.Skips`, `Host.runWith_skips` : when a run is skipped, and that it only remarks on it then.
* `Host.Ends`, `Host.Stepped.ends` : how running formatters ends.
* `RunReport.Fits` : what goes together in the report of a run that was not skipped.
* `Host.formatSteps`, `Host.formatOnly` : what a run does that saves nothing before its end.
* `Host.runWith_reports` : the report of a run, and when it saves.
-/

namespace FormatChain

open Session (WithEvents)
open Settings (Scope)

/-- A file was to be written, and was not. -/
def Failure.IsRefusedWrite : Failure → Prop
  | .fileReadOnly _ => True
  | .writeRefused _ _ => True
  | _ => False

/-- The ids of the formatters that had their steps, in order. -/
def RunReport.ids (report : RunReport) : List String := report.steps.map StepReport.formatter

/-- What goes together in the report of a run of formatters that was not skipped. -/
structure RunReport.Fits (report : RunReport) (ids : List String) (options : RunOptions) :
    Prop where
  /-- The formatters that had their steps are the first ones of the chain. -/
  begins : report.ids <+: ids
  /-- If the run was cancelled there was a formatter left, and it did not fail at a formatter. -/
  of_cancelled : report.cancelled = true →
    (∃ next, report.ids ++ [next] <+: ids) ∧
      ∀ failure, report.failure = some failure → failure.formatter = none
  /-- If the run failed at a formatter it was not cancelled. Either the formatter is the one after
  those that had their steps, and could not be named; or the options ask for a save after each
  formatter, and it is the last one that had its step, and the save after it was refused. -/
  of_failed : ∀ id cause, report.failure = some ⟨some id, cause⟩ →
    report.cancelled = false ∧
      (report.ids ++ [id] <+: ids ∧ (∃ e, cause = .settingRefused e) ∨
        options.saveAfterEach = true ∧ report.ids.getLast? = some id ∧ cause.IsRefusedWrite)
  /-- If it failed, but not at a formatter, the save after the chain was refused. -/
  of_unsaved : ∀ cause, report.failure = some ⟨none, cause⟩ →
    options.saveAfterEach = false ∧ options.saveAfterChain = true ∧ cause.IsRefusedWrite
  /-- In all other cases every formatter had its step. -/
  complete : report.cancelled = false →
    (∀ id cause, report.failure ≠ some ⟨some id, cause⟩) → report.ids = ids

namespace Host

variable {host : Host} {course : Course} {confirm : Confirmer} {n : Nat} {chain : Chain}
  {options : RunOptions} {slot : Slot} {index : Nat} {id : String} {fingerprint : Fingerprint}
  {s s' : Session} {ids reported : List String} {cancelled : Bool} {failure : Option RunFailure}
  {each : Bool}

/-! ## Skipped runs -/

/-- A run has nothing to do, or must not begin: somebody holds the guard, the document has no
unsaved changes, or there are no formatters. -/
def Skips (n : Nat) (chain : Chain) (s : Session) : Prop :=
  s.app.guard.held = true ∨ (s.document n).isDirty = false ∨ chain.ids = []

/-- A run that holds the guard and has nothing to do only remarks on it. -/
theorem runIfNeeded_skips (host : Host) (course : Course)
    (h : (s.document course.document).isDirty = false ∨ chain.ids = []) :
    (∃ reason, (host.runIfNeeded course chain s).1 = .skipped reason) ∧
      (host.runIfNeeded course chain s).2.unremarked = s.unremarked := by
  rw [runIfNeeded, Action.bind_apply, Action.document_apply]
  cases hdirty : (s.document course.document).isDirty with
  | false => exact ⟨⟨.notDirty, rfl⟩, Session.unremarked_debug s _⟩
  | true =>
    have hempty : chain.isEmpty = true := by
      rcases h with hclean | hnone
      · exact absurd (hdirty.symm.trans hclean) (by simp)
      · simp [Chain.isEmpty, hnone]
    simp only [hempty, Bool.not_true, Bool.false_eq_true, if_false, if_true]
    exact ⟨⟨.emptyChain, rfl⟩, Session.unremarked_debug s _⟩

/-- **A run that is skipped only remarks on it.** -/
theorem runWith_skips (host : Host) (confirm : Confirmer) (options : RunOptions)
    (h : Skips n chain s) :
    (∃ reason, (host.runWith confirm n chain options s).1 = .skipped reason) ∧
      (host.runWith confirm n chain options s).2.unremarked = s.unremarked := by
  cases hheld : s.app.guard.held with
  | true =>
    rw [runWith_held host confirm n chain options hheld]
    exact ⟨⟨.alreadyRunning, rfl⟩, Session.unremarked_debug s _⟩
  | false =>
    have hneedless : (s.document n).isDirty = false ∨ chain.ids = [] :=
      h.resolve_left (by simp [hheld])
    obtain ⟨hskipped, hsame⟩ := runIfNeeded_skips (s := held s) host
      (courseOf confirm n chain options) hneedless
    have hguard : (⟨false⟩ : Guard) = s.app.guard := by rw [← hheld]
    rw [runWith_of_free hheld]
    refine ⟨hskipped, ?_⟩
    calc (released _).unremarked
        = released (host.runIfNeeded (courseOf confirm n chain options) chain
            (held s)).2.unremarked := rfl
      _ = released (held s).unremarked := by rw [hsame]
      _ = { s.unremarked with app := { s.app with guard := ⟨false⟩ } } := rfl
      _ = s.unremarked := by
        rw [hguard]
        rfl

/-! ## How running formatters ends -/

/-- How running the formatters of these ids ends: the ids of those that had their steps, whether it
was cancelled, and why it ended early, if it did. -/
inductive Ends (each : Bool) (ids : List String) :
    List String → Bool → Option RunFailure → Prop
  /-- All of them had their steps. -/
  | all : Ends each ids ids false none
  /-- The person wanted it to stop before one of them. -/
  | cancelled {reported : List String} {id : String} (h : reported ++ [id] <+: ids) :
      Ends each ids reported true none
  /-- One of them could not be named. -/
  | refused {reported : List String} {id : String} {e : Settings.WriteError}
      (h : reported ++ [id] <+: ids) :
      Ends each ids reported false (some ⟨some id, .settingRefused e⟩)
  /-- After the step of one of them the document was not saved. -/
  | unsaved {earlier : List String} {id : String} {cause : Failure} (heach : each = true)
      (h : earlier ++ [id] <+: ids) (hcause : cause.IsRefusedWrite) :
      Ends each ids (earlier ++ [id]) false (some ⟨some id, cause⟩)

/-- With one more formatter in front, that had its step, it ends in the same way. -/
theorem Ends.cons (h : Ends each ids reported cancelled failure) (id : String) :
    Ends each (id :: ids) (id :: reported) cancelled failure := by
  have hlonger : ∀ {begun : List String}, begun <+: ids → id :: begun <+: id :: ids :=
    fun hbegun => List.cons_prefix_cons.2 ⟨rfl, hbegun⟩
  cases h with
  | all => exact .all
  | cancelled h => exact .cancelled (hlonger h)
  | refused h => exact .refused (hlonger h)
  | @unsaved earlier last cause heach h hcause =>
    exact @Ends.unsaved each (id :: ids) (id :: earlier) last cause heach (hlonger h) hcause

/-- A save that is refused fails because a file is not written. -/
theorem SavedIf.isRefusedWrite {wanted : Prop} {cause : Failure}
    (h : SavedIf n wanted s (some cause) s') : cause.IsRefusedWrite := by
  cases h with
  | refused _ hsave _ =>
    cases hsave with
    | refused _ hwrite _ =>
      rcases Session.write_eq_error hwrite with rfl | ⟨cause, rfl⟩
      · trivial
      · trivial

theorem runStep_formatter (host : Host) (course : Course) (slot : Slot) (index : Nat) (id : String)
    (fingerprint : Fingerprint) (s : Session) :
    (host.runStep course slot index id fingerprint s).1.1.formatter = id := by
  rw [runStep_eq_askStep]
  exact (askStep_tells rfl).1

/-- **Running formatters ends in one of these ways.** -/
theorem Stepped.ends {stepping : Stepping}
    (h : Stepped host course index ids slot fingerprint s stepping s') :
    Ends course.options.saveAfterEach ids (stepping.steps.map StepReport.formatter)
      stepping.cancelled stepping.failure := by
  induction h with
  | done => exact .all
  | @cancelled _ id rest => exact @Ends.cancelled _ _ [] id (List.prefix_append [id] rest)
  | @refused _ id rest => exact .refused (List.prefix_append [id] rest)
  | @unsaved index id rest slot slot' fingerprint fingerprint' settings step _ announced _ _ cause
      _ _ _ hran hsave =>
    have hid : step.formatter = id := by
      rw [← runStep_formatter host course slot' index id fingerprint, hran]
    have heach : course.options.saveAfterEach = true := by
      cases hsave with
      | refused hwanted _ _ => exact hwanted.1
    rw [List.map_cons, hid]
    exact @Ends.unsaved _ _ [] id cause heach (List.prefix_append [id] rest) hsave.isRefusedWrite
  | @goesOn index id rest slot slot' fingerprint fingerprint' settings step _ announced _ _ _ _
      _ _ _ hran _ _ ih =>
    have hid : step.formatter = id := by
      rw [← runStep_formatter host course slot' index id fingerprint, hran]
    rw [List.map_cons, hid]
    exact ih.cons id

/-! ## Reports -/

theorem Ends.begins (h : Ends each ids reported cancelled failure) :
    reported <+: ids := by
  cases h with
  | all => exact List.prefix_refl ids
  | cancelled h => exact (List.prefix_append _ _).trans h
  | refused h => exact (List.prefix_append _ _).trans h
  | unsaved _ h _ => exact h

/-- A report fits that says how running the formatters ended. -/
theorem Ends.fits {report : RunReport}
    (h : Ends options.saveAfterEach ids report.ids report.cancelled report.failure) :
    report.Fits ids options := by
  have hbegins := h.begins
  generalize hreported : report.ids = reported at h hbegins
  generalize hcancelled : report.cancelled = cancelled at h
  generalize hfailure : report.failure = failure at h
  cases h with
  | all =>
    exact ⟨hreported ▸ hbegins, by simp [hcancelled], by simp [hfailure], by simp [hfailure],
      fun _ _ => hreported⟩
  | @cancelled _ next h =>
    exact ⟨hreported ▸ hbegins, fun _ => ⟨⟨next, hreported ▸ h⟩, by simp [hfailure]⟩,
      by simp [hfailure], by simp [hfailure], fun hgoing => by simp [hcancelled] at hgoing⟩
  | @refused _ id e h =>
    refine ⟨hreported ▸ hbegins, by simp [hcancelled], fun id' cause' hfailed => ?_,
      by simp [hfailure], fun _ hnone => absurd hfailure (hnone _ _)⟩
    obtain ⟨⟩ := Option.some.inj (hfailure.symm.trans hfailed)
    exact ⟨hcancelled, .inl ⟨hreported ▸ h, e, rfl⟩⟩
  | @unsaved earlier id cause heach h hcause =>
    refine ⟨hreported ▸ hbegins, by simp [hcancelled], fun id' cause' hfailed => ?_,
      by simp [hfailure], fun _ hnone => absurd hfailure (hnone _ _)⟩
    obtain ⟨⟩ := Option.some.inj (hfailure.symm.trans hfailed)
    exact ⟨hcancelled, .inr ⟨heach, by rw [hreported, List.getLast?_concat], hcause⟩⟩

/-- A report fits as well if only the save after the chain was refused. -/
theorem Ends.fits_unsaved {report : RunReport} {cause : Failure}
    (h : Ends options.saveAfterEach ids report.ids report.cancelled none)
    (hfailure : report.failure = some ⟨none, cause⟩) (heach : options.saveAfterEach = false)
    (hchain : options.saveAfterChain = true) (hcause : cause.IsRefusedWrite) :
    report.Fits ids options := by
  have hbegins := h.begins
  refine ⟨hbegins, fun hcancelled => ⟨?_, by simp [hfailure]⟩, by simp [hfailure],
    fun cause' hfailed => ?_, fun hgoing _ => ?_⟩
  · rw [hcancelled] at h
    generalize report.ids = reported at h
    cases h with
    | @cancelled _ next h => exact ⟨next, h⟩
  · obtain ⟨⟩ := Option.some.inj (hfailure.symm.trans hfailed)
    exact ⟨heach, hchain, hcause⟩
  · rw [hgoing] at h
    generalize report.ids = reported at h
    cases h with
    | all => rfl

/-! ## Runs that do not save after each formatter -/

/-- Lets the formatters run one after the other, and saves nothing. -/
def formatSteps (host : Host) (course : Course) :
    Nat → List String → Slot → Fingerprint → Action Stepping
  | _, [], slot, _ => return { slot }
  | index, id :: rest, slot, before => do
    if (← get).cancelled then
      Action.debug s!"Cancelled before step {index + 1}/{course.length} ({id})."
      return { cancelled := true, slot }
    else
      Action.debug s!"Step {index + 1}/{course.length}: {id}"
      match ← activate slot id with
      | .error cause => return { failure := some ⟨some id, cause⟩, slot }
      | .ok slot =>
        let (step, after) ← host.runStep course slot index id before
        let others ← host.formatSteps course (index + 1) rest slot after
        return { others with steps := step :: others.steps }

/-- What a run does without saves: it lets the formatters run, and restores the setting. -/
def formatOnly (host : Host) (course : Course) (chain : Chain) (slot : Slot) :
    Action Stepping := do
  let d ← Action.document course.document
  Action.debug (s!"Running {chain.text} for {d.path.text} ({d.language}). "
    ++ s!"Active formatter at {slot.scope.name} scope was {settingShown slot.found}.")
  let stepping ← host.formatSteps course 0 chain.ids slot (Fingerprint.of d.text)
  restore stepping.slot
  return stepping

theorem saveAfterStep_unwanted (heach : course.options.saveAfterEach = false) (id : String)
    (s : Session) : saveAfterStep course id s = (none, s) := by
  simp only [saveAfterStep, heach, Bool.false_and, Bool.false_eq_true, if_false]
  rfl

/-- **Running formatters saves nothing** if the options do not ask for a save after each one. -/
theorem runSteps_eq_formatSteps (host : Host) (heach : course.options.saveAfterEach = false)
    (ids : List String) (index : Nat) (slot : Slot) (before : Fingerprint) (s : Session) :
    host.runSteps course index ids slot before s =
      host.formatSteps course index ids slot before s := by
  induction ids generalizing index slot before s with
  | nil => rfl
  | cons id rest ih =>
    rw [runSteps, formatSteps, Action.bind_apply, Action.bind_apply, Action.get_apply]
    by_cases hcancelled : s.cancelled = true
    · rw [if_pos hcancelled, if_pos hcancelled]
    · rw [if_neg hcancelled, if_neg hcancelled]
      simp only [Action.bind_apply]
      generalize (Action.debug s!"Step {index + 1}/{course.length}: {id}" s).2 = announced
      rcases activate slot id announced with ⟨cause | slot', named⟩
      · rfl
      · simp only [Action.bind_apply, saveAfterStep_unwanted heach, ih]

/-- When a run that does not save after each formatter saves at its end: the options ask for it,
nothing failed, and there is something to save. -/
def SavesAtEnd (n : Nat) (options : RunOptions) (failure : Option RunFailure) (s : Session) :
    Prop :=
  options.saveAfterChain = true ∧ failure = none ∧ (s.document n).isDirty = true

theorem savesAfterChain_iff (heach : course.options.saveAfterEach = false)
    (failure : Option RunFailure) (s : Session) :
    SavesAfterChain course failure s ↔ SavesAtEnd course.document course.options failure s := by
  simp [SavesAfterChain, SavesAtEnd, heach]

/-- Without saves, a run does up to its end what it does up to the restoration, and restores. -/
theorem formatOnly_eq (host : Host) (heach : course.options.saveAfterEach = false) (chain : Chain)
    (slot : Slot) (s : Session) :
    host.formatOnly course chain slot s =
      let stepped := host.upToRestore course chain slot s
      (stepped.1, (restore stepped.1.slot stepped.2).2) := by
  simp only [formatOnly, upToRestore, Action.bind_apply, runSteps_eq_formatSteps host heach]
  rfl

/-! ## What is reported -/

/-- The report fits whatever the end of the run comes to. -/
theorem fromRestore_fits {stepping : Stepping} (original : String)
    (h : Ends course.options.saveAfterEach ids (stepping.steps.map StepReport.formatter)
      stepping.cancelled stepping.failure) (s : Session) :
    (fromRestore course original stepping s).1.Fits ids course.options := by
  obtain ⟨cause, saved, hsave, -, hreport⟩ := fromRestore_cases course original stepping s
  rw [hreport]
  cases hsave with
  | unwanted _ => exact Ends.fits h
  | saved _ _ => exact Ends.fits h
  | refused hwanted hsaved hsaid =>
    obtain ⟨heach, hchain, hnone, -⟩ := id hwanted
    rw [hnone] at h
    exact Ends.fits_unsaved h rfl heach hchain
      (SavedIf.refused hwanted hsaved hsaid).isRefusedWrite

/-- The edit says whether the text at the end is another one than at the start. -/
theorem fromRestore_edit_eq (course : Course) (original : String) (stepping : Stepping)
    (s : Session) :
    let ended := fromRestore course original stepping s
    ended.1.edit = if (ended.2.document course.document).text = original then .noChanges
      else .replace (ended.2.document course.document).text := by
  obtain ⟨cause, saved, -, hsaid, hreport⟩ := fromRestore_cases course original stepping s
  dsimp only
  rw [hreport, hsaid.document]

/-- A run that does not save after each formatter saves once at most, at its end. -/
theorem fromRestore_saves (host : Host) (heach : course.options.saveAfterEach = false)
    (chain : Chain) (slot : Slot) (original : String) (s : Session) :
    let stepped := host.upToRestore course chain slot s
    let ended := fromRestore course original stepped.1 stepped.2
    let formatted := host.formatOnly course chain slot s
    ended.1.steps = formatted.1.steps ∧ ended.1.cancelled = formatted.1.cancelled ∧
      ∃ cause saved,
        SavedIf course.document
          (SavesAtEnd course.document course.options formatted.1.failure formatted.2)
          formatted.2 cause saved ∧
        ended.1.failure = (cause.elim formatted.1.failure fun cause => some ⟨none, cause⟩) ∧
        WithEvents saved ended.2 := by
  intro stepped ended formatted
  have hformatted : formatted = (stepped.1, (restore stepped.1.slot stepped.2).2) :=
    formatOnly_eq host heach chain slot s
  obtain ⟨cause, saved, hsave, hsaid, hreport⟩ :=
    fromRestore_cases course original stepped.1 stepped.2
  change ended.1 = _ at hreport
  rw [propext (savesAfterChain_iff heach _ _)] at hsave
  rw [hformatted, hreport]
  exact ⟨rfl, rfl, cause, saved, hsave, rfl, hsaid⟩

/-- **The report of a run.**  Take a run in an editor with settings to name formatters in, whatever
the formatters do and whatever goes on meanwhile.  It is skipped if and only if somebody holds the
guard, the document has no unsaved changes or the chain is empty, and then it leaves nothing but
remarks.  Otherwise its edit is the text of the document at the end, if this is another one than at
the start; and what the report says of formatters, of a cancellation and of a failure goes together.
If the options ask for no save after each formatter, the run is one without saves, followed by one
save at most, which is made if the options ask for it, nothing failed and there is something to
save. -/
theorem runWith_reports (host : Host) (confirm : Confirmer) (n : Nat) (chain : Chain)
    (options : RunOptions) {s : Session} {scope : Scope}
    (hscope : s.app.settings.narrowestScope? = some scope) :
    let ran := host.runWith confirm n chain options s
    ((∃ reason, ran.1.edit = .skipped reason) ↔ Skips n chain s) ∧
    (Skips n chain s →
      (∃ reason, ran.1 = .skipped reason) ∧ ran.2.unremarked = s.unremarked) ∧
    (¬ Skips n chain s →
      ran.1.edit = (if (ran.2.document n).text = (s.document n).text then .noChanges
        else .replace (ran.2.document n).text) ∧
      ran.1.Fits chain.ids options ∧
      (options.saveAfterEach = false →
        let formatted := host.formatOnly (courseOf confirm n chain options) chain
          (.at s.app.settings scope (s.document n).language) (held s)
        ran.1.steps = formatted.1.steps ∧ ran.1.cancelled = formatted.1.cancelled ∧
        ∃ cause saved ended,
          SavedIf n (SavesAtEnd n options formatted.1.failure formatted.2) formatted.2 cause saved ∧
          ran.1.failure = (cause.elim formatted.1.failure fun cause => some ⟨none, cause⟩) ∧
          WithEvents saved ended ∧ ran.2 = released ended)) := by
  intro ran
  by_cases hskips : Skips n chain s
  · obtain ⟨⟨reason, hreport⟩, hsame⟩ := runWith_skips host confirm options hskips
    refine ⟨iff_of_true ⟨reason, ?_⟩ hskips, fun _ => ⟨⟨reason, hreport⟩, hsame⟩,
      fun hnot => absurd hskips hnot⟩
    exact congrArg RunReport.edit hreport
  · obtain ⟨hfree, hdirty, hchain⟩ : s.app.guard.held = false ∧ (s.document n).isDirty = true ∧
        chain.ids ≠ [] := by
      simpa [Skips, not_or] using hskips
    let course := courseOf confirm n chain options
    let slot := Slot.at s.app.settings scope (s.document n).language
    let stepped := host.upToRestore course chain slot (held s)
    let ended := fromRestore course (s.document n).text stepped.1 stepped.2
    have hran : ran = (ended.1, released ended.2) :=
      runWith_eq hfree hdirty hchain (Slot.acquire_of_narrowest hscope _)
    obtain ⟨announced, -, hstepped⟩ := upToRestore_stepped host course chain slot (held s)
    have hunskipped : ¬ ∃ reason, ended.1.edit = .skipped reason :=
      fun ⟨reason, h⟩ => fromRestore_edit course _ stepped.1 stepped.2 reason h
    have hedit := fromRestore_edit_eq course (s.document n).text stepped.1 stepped.2
    have hfits := fromRestore_fits (s.document n).text hstepped.ends stepped.2
    rw [hran]
    refine ⟨iff_of_false hunskipped hskips, fun h => absurd h hskips,
      fun _ => ⟨hedit, hfits, fun heach => ?_⟩⟩
    have hnever : course.options.saveAfterEach = false := heach
    obtain ⟨hsteps, hcancelled, cause, saved, hsave, hfailure, hsaid⟩ :=
      fromRestore_saves host hnever chain slot (s.document n).text (held s)
    exact ⟨hsteps, hcancelled, cause, saved, ended.2, hsave, hfailure, hsaid, rfl⟩

/-- All formatters have their steps, one of them in vain, and the save after the chain is
refused. -/
theorem runWith_reports_unsaved :
    let append : Formatter := ⟨"append", false, fun request => pure (.text (request.text ++ "!"))⟩
    let host : Host := ⟨.ofFormatters [append], fun _ => pure ()⟩
    let chain : Chain := ⟨["append", "missing"], by decide⟩
    let options : RunOptions :=
      { delay := 50, saveAfterChain := true, saveAfterEach := false, activation := ⟨3, 10⟩ }
    let s : Session :=
      { disk := { Disk.ofFiles [(⟨"/a.rs"⟩, "a")] with readOnly := [⟨"/a.rs"⟩] }
        outside := some {}
        app := { settings := { layers := { workspace := some .empty } } }
        documents := [⟨⟨"/a.rs"⟩, "rust", "a", none, .disk, 1⟩] }
    let ran := host.runWith host.poll 0 chain options s
    s.app.settings.narrowestScope? = some .workspace ∧ ¬ Skips 0 chain s ∧
      ran.1.edit = .replace "a!" ∧ ran.1.ids = chain.ids ∧
      ∃ cause, ran.1.failure = some ⟨none, cause⟩ ∧ cause.IsRefusedWrite := by
  intro append host chain options s
  have hran : s.app.guard.held = false ∧ (s.document 0).isDirty = true ∧ chain.ids ≠ [] ∧
      s.app.settings.narrowestScope? = some .workspace ∧
      (host.runWith host.poll 0 chain options s).1.edit = .replace "a!" ∧
      (host.runWith host.poll 0 chain options s).1.cancelled = false ∧
      (host.runWith host.poll 0 chain options s).1.failure.map (·.formatter) = some none := by
    decide +kernel +revert
  obtain ⟨hfree, hdirty, hchain, hscope, hedit, hgoing, hunnamed⟩ := hran
  have hskips : ¬ Skips 0 chain s := by simp [Skips, hfree, hdirty, hchain]
  obtain ⟨-, -, hreport⟩ := runWith_reports host host.poll 0 chain options hscope
  obtain ⟨-, hfits, -⟩ := hreport hskips
  obtain ⟨⟨_, cause⟩, hfailure, rfl⟩ := Option.map_eq_some_iff.1 hunnamed
  refine ⟨hscope, hskips, hedit, hfits.complete hgoing fun id cause' h => ?_, cause, hfailure,
    (hfits.of_unsaved cause hfailure).2.2⟩
  rw [hfailure] at h
  cases h

end Host

end FormatChain
