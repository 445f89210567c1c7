import FormatChain.Proofs.Run.Asking
import FormatChain.Proofs.Run.Lockstep
import FormatChain.Proofs.Session.Guards

/-!
# Runs that are cancelled

A run looks only between two formatters whether the person wants it to stop.  So a run that was
cancelled after some of its formatters is a run of the chain of these formatters.

* `Host.IgnoresRemarks` : others cannot tell remarks for debugging.
* `Host.runSteps_take` : the formatters before the cancellation, run alone.
* `Host.Told.named_going` : nobody is named once the person wants it to stop.
* `Host.run_cancelled` : the cancelled run and the run of the shorter chain.
-/

namespace FormatChain

open Session (AgreeWhile agreeWhile_congruence WithEvents)
open Settings (Scope)

namespace Host

variable {host : Host} {course course' : Course} {index : Nat} {id : String}
  {rest ids : List String} {slot : Slot} {before : Fingerprint} {s s' : Session}

/-- The formatters, and those who are active meanwhile, do the same in two sessions that only differ
in remarks for debugging, and find the same. -/
def IgnoresRemarks (host : Host) : Prop := host.Matches (AgreeWhile fun _ => True) host

/-! ## The formatters before the cancellation -/

/-- What a run goes through while nobody wants it to stop. -/
theorem runSteps_going (hgoing : s.cancelled = false) :
    host.runSteps course index (id :: rest) slot before s =
      match activate slot id (Action.debug s!"Step {index + 1}/{course.length}: {id}" s).2 with
      | (.error cause, refused) => ({ failure := some ⟨some id, cause⟩, slot }, refused)
      | (.ok slot, named) =>
        let stepped := host.runStep course slot index id before named
        match saveAfterStep course id stepped.2 with
        | (some failure, saved) =>
          ({ steps := [stepped.1.1], failure := some failure, slot }, saved)
        | (none, saved) =>
          let others := host.runSteps course (index + 1) rest slot stepped.1.2 saved
          ({ others.1 with steps := stepped.1.1 :: others.1.steps }, others.2) := by
  rw [runSteps, Action.bind_apply, Action.get_apply]
  simp only [hgoing, Bool.false_eq_true, if_false, Action.bind_apply]
  rcases activate slot id (Action.debug s!"Step {index + 1}/{course.length}: {id}" s).2 with
    ⟨cause | slot', named⟩
  · rfl
  · simp only [Action.bind_apply]
    rcases saveAfterStep course id (host.runStep course slot' index id before named).2 with
      ⟨_ | failure, saved⟩
    · rfl
    · rfl

/-- **The formatters that had their steps before the cancellation do the same without the others.**
Only that there was a cancellation, and the remark on it, is missing. -/
theorem runSteps_take (host : Host) (course : Course) (ids : List String) (index : Nat)
    (slot : Slot) (before : Fingerprint) (s : Session)
    (h : (host.runSteps course index ids slot before s).1.cancelled = true) :
    let ran := host.runSteps course index ids slot before s
    ran.1.steps.length < ids.length ∧ ran.1.failure = none ∧
      ∃ stopped remark, stopped.cancelled = true ∧
        host.runSteps course index (ids.take ran.1.steps.length) slot before s =
          ({ ran.1 with cancelled := false }, stopped) ∧
        ran.2 = (Action.debug remark stopped).2 := by
  induction ids generalizing index slot before s with
  | nil => exact absurd h Bool.false_ne_true
  | cons id rest ih =>
    cases hcancelled : s.cancelled with
    | true =>
      rw [runSteps, Action.bind_apply, Action.get_apply, if_pos hcancelled]
      exact ⟨Nat.succ_pos _, rfl, s, _, hcancelled, rfl, rfl⟩
    | false =>
      -- The first formatter has its step in both runs.
      have hgoing : ∀ others, host.runSteps course index (id :: others) slot before s = _ :=
        fun others => runSteps_going hcancelled
      simp only [hgoing] at h ⊢
      rcases hactivate : activate slot id
        (Action.debug s!"Step {index + 1}/{course.length}: {id}" s).2 with ⟨cause | slot', named⟩
      · rw [hactivate] at h
        exact absurd h Bool.false_ne_true
      · simp only [hactivate] at h ⊢
        rcases hsaved : saveAfterStep course id (host.runStep course slot' index id before named).2
          with ⟨_ | failure, saved⟩
        · simp only [hsaved] at h ⊢
          obtain ⟨hlength, hfailure, stopped, remark, hstopped, htake, hremark⟩ :=
            ih (index + 1) slot' _ saved h
          refine ⟨Nat.succ_lt_succ hlength, hfailure, stopped, remark, hstopped, ?_, hremark⟩
          rw [List.length_cons, List.take_succ_cons, hgoing]
          simp only [hactivate, hsaved, htake]
        · rw [hsaved] at h
          exact absurd h Bool.false_ne_true

/-! ## Steps before the cancellation -/

/-- After a step, or from a clean document on, there is nothing to save if the options ask for a
save after each formatter and none was refused. -/
theorem Stepped.clean {fingerprint : Fingerprint} {stepping : Stepping}
    (heach : course.options.saveAfterEach = true)
    (h : Stepped host course index ids slot fingerprint s stepping s')
    (hnone : stepping.failure = none)
    (hclean : (s.document course.document).isDirty = false ∨ stepping.steps ≠ []) :
    (s'.document course.document).isDirty = false := by
  induction h with
  | done => exact hclean.resolve_right fun h => h rfl
  | cancelled _ hsaid =>
    rw [hsaid.document]
    exact hclean.resolve_right fun h => h rfl
  | refused _ _ _ => exact absurd hnone (by simp)
  | unsaved _ _ _ _ _ => exact absurd hnone (by simp)
  | goesOn _ _ _ _ hsave _ ih =>
    exact ih hnone (.inl (clean_of_savedAfterStep heach hsave))

/-- **No formatter is named once the person wants it to stop.**  Those that were named are the first
ones of the chain. -/
theorem Told.named_going {fingerprint : Fingerprint} {told : Stepping × List Asking}
    (h : Told host course index ids slot fingerprint s told s') :
    told.2.map (·.step.formatter) = ids.take told.1.steps.length ∧
      ∀ asking ∈ told.2, asking.named.cancelled = false := by
  induction h with
  | done | cancelled _ _ | refused _ _ _ => simp
  | unsaved hgoing hannounced _ hasked _ =>
    obtain ⟨hid, hnamed⟩ := askStep_tells hasked
    have hlater := hannounced.cancelled.trans hgoing
    simpa [hid, hnamed] using hlater
  | goesOn hgoing hannounced _ hasked _ _ ih =>
    obtain ⟨hid, hnamed⟩ := askStep_tells hasked
    have hlater := hannounced.cancelled.trans hgoing
    refine ⟨by simp [hid, ih.1], fun asking hmem => ?_⟩
    rcases List.mem_cons.1 hmem with rfl | hmem
    · rw [hnamed]
      exact hlater
    · exact ih.2 asking hmem

/-! ## Whole runs -/

/-- Up to the restoration, a run lets its formatters run, and remarks on it. -/
theorem upToRestoration_eq (host : Host) (n : Nat) (chain : Chain) (options : RunOptions)
    (scope : Scope) (s : Session) :
    ∃ remark, host.upToRestoration n chain options scope s =
      host.runSteps (courseOf host.poll n chain options) 0 chain.ids
        (.at s.app.settings scope (s.document n).language) (Fingerprint.of (s.document n).text)
        (Action.debug remark (held s)).2 :=
  ⟨_, rfl⟩

/-- Up to the restoration, the formatters before the cancellation do the same alone. -/
theorem upToRestoration_take (hremarks : host.IgnoresRemarks) {n : Nat} {chain : Chain}
    {options : RunOptions} {scope : Scope}
    (h : (host.upToRestoration n chain options scope s).1.cancelled = true) :
    let stepped := host.upToRestoration n chain options scope s
    let cut := host.upToRestoration n (chain.take stepped.1.steps.length) options scope s
    stepped.1.steps.length < chain.length ∧ stepped.1.failure = none ∧
      stepped.2.cancelled = true ∧ cut.1 = { stepped.1 with cancelled := false } ∧
      cut.2.unremarked = stepped.2.unremarked := by
  intro stepped cut
  obtain ⟨remark, hall⟩ := upToRestoration_eq host n chain options scope s
  obtain ⟨remark', hcut⟩ := upToRestoration_eq host n (chain.take stepped.1.steps.length) options
    scope s
  obtain ⟨hlength, hfailure, stopped, last, hstopped, htake, hlast⟩ :=
    runSteps_take host _ _ _ _ _ _ (hall ▸ h)
  rw [← hall] at hlength hfailure htake hlast
  -- The other number of formatters is only told in remarks.
  have hR := agreeWhile_congruence fun _ => True
  have hcourse : (courseOf host.poll n chain options).Matches (AgreeWhile fun _ => True)
      (courseOf host.poll n (chain.take stepped.1.steps.length) options) :=
    ⟨rfl, rfl, hremarks.poll hR⟩
  obtain ⟨hstepping, hsession, -⟩ := hremarks.runSteps hR hcourse
    (chain.ids.take stepped.1.steps.length) 0 _ _ _ _ (hR.remark remark remark' ⟨rfl, trivial⟩)
  refine ⟨hlength, hfailure, ?_, ?_, ?_⟩
  · rw [hlast]
    exact ((Action.debug_onlySays last stopped).cancelled).trans hstopped
  · exact (congrArg Prod.fst hcut).trans (hstepping.trans (congrArg Prod.fst htake))
  · rw [hlast, Session.unremarked_debug]
    exact (congrArg (fun ran => ran.2.unremarked) hcut).trans
      (hsession.trans (congrArg (fun ran => ran.2.unremarked) htake))

/-- Only a run of which the formatters ran can have been cancelled. -/
theorem stages_of_cancelled {n : Nat} {chain : Chain} {options : RunOptions}
    (h : (host.run n chain options s).1.cancelled = true) :
    s.app.guard.held = false ∧ (s.document n).isDirty = true ∧ chain.ids ≠ [] ∧
      ∃ scope, s.app.settings.narrowestScope? = some scope := by
  have hran := runWith_ran host host.poll n chain options s
  change Ran _ _ _ _ _ _ (host.run n chain options s).1 (host.run n chain options s).2 at hran
  generalize (host.run n chain options s).1 = report at h hran
  generalize (host.run n chain options s).2 = ended at hran
  cases hran with
  | alreadyRunning _ _ | notDirty _ _ _ | emptyChain _ _ _ _ | uncaptured _ _ _ _ _ =>
    exact absurd h Bool.false_ne_true
  | completed hfree hdirty hchain hacquire _ _ =>
    obtain ⟨scope, hscope, -⟩ := Slot.acquire_eq_ok_iff.1 hacquire
    exact ⟨hfree, hdirty, hchain, scope, hscope⟩

theorem unremarked_released (s : Session) : (released s).unremarked = released s.unremarked := rfl

/-- From the restoration on, too, the two runs do the same. -/
theorem run_take (hremarks : host.IgnoresRemarks) {n : Nat} {chain : Chain} {options : RunOptions}
    {scope : Scope} (hfree : s.app.guard.held = false) (hdirty : (s.document n).isDirty = true)
    (hchain : chain.ids ≠ []) (hscope : s.app.settings.narrowestScope? = some scope)
    (h : (host.upToRestoration n chain options scope s).1.cancelled = true)
    (hsteps : (host.upToRestoration n chain options scope s).1.steps ≠ []) :
    let ran := host.run n chain options s
    let cut := host.run n (chain.take ran.1.steps.length) options s
    cut.1 = { ran.1 with cancelled := false } ∧ cut.2.unremarked = ran.2.unremarked := by
  intro ran cut
  have hran : ran = _ := run_eq host options hfree hdirty hchain hscope
  set stepped := host.upToRestoration n chain options scope s
  have hlength : ran.1.steps.length = stepped.1.steps.length := by rw [hran]; rfl
  have htake : (chain.take stepped.1.steps.length).ids ≠ [] := by
    simpa [Chain.take, hchain] using hsteps
  have hcut : cut = _ := run_eq host options hfree hdirty (hlength ▸ htake) hscope
  obtain ⟨-, -, -, hstepping, hsession⟩ := upToRestoration_take hremarks h
  rw [hlength] at hcut
  have hR := agreeWhile_congruence fun _ => True
  have hcourse : (courseOf host.poll n chain options).Matches (AgreeWhile fun _ => True)
      (courseOf host.poll n (chain.take stepped.1.steps.length) options) :=
    ⟨rfl, rfl, hremarks.poll hR⟩
  obtain ⟨hreport, hended, -⟩ := fromRestore_matches hR hcourse (s.document n).text
    { stepped.1 with cancelled := false } stepped.2 _ ⟨hsession, trivial⟩
  rw [hran, hcut]
  dsimp only
  rw [hstepping, unremarked_released, unremarked_released, hended, hreport]
  exact ⟨rfl, rfl⟩

/-- **A run that was cancelled is a run of the formatters before.**  Let others not be able to tell
remarks for debugging.  If a run ends cancelled after some steps, there are formatters left, and the
run of the ones that had their steps has the same report, but for the cancellation, and ends in the
same session, but for remarks: the same documents, layers, files, writes and sleeps.

So the step in which the person wants it to stop is finished and reported, nobody is named after it,
and nothing is left to save if the options ask for a save after each formatter.  Then what was found
in the setting is put back, and only after that there may be a save after the chain. -/
theorem run_cancelled {host : Host} (hremarks : host.IgnoresRemarks) (n : Nat) (chain : Chain)
    (options : RunOptions) (s : Session)
    (hcancelled : (host.run n chain options s).1.cancelled = true)
    (hsteps : (host.run n chain options s).1.steps ≠ []) :
    let ran := host.run n chain options s
    let cut := host.run n (chain.take ran.1.steps.length) options s
    let askings := host.askings n chain options s
    ran.1.steps.length < chain.length ∧ cut.1 = { ran.1 with cancelled := false } ∧
    cut.2.unremarked = ran.2.unremarked ∧
    ran.1.steps = askings.map Asking.step ∧
    ran.1.steps.map StepReport.formatter = chain.ids.take ran.1.steps.length ∧
    (∀ asking ∈ askings, asking.named.cancelled = false) ∧
    ∃ scope cause saved ended, s.app.settings.narrowestScope? = some scope ∧
      let stepped := host.upToRestoration n chain options scope s
      let restored := (restore stepped.1.slot stepped.2).2
      stepped.2.cancelled = true ∧
      (options.saveAfterEach = true → (stepped.2.document n).isDirty = false) ∧
      SavedIf n (SavesAfterChain (courseOf host.poll n chain options) none restored) restored cause
        saved ∧
      WithEvents saved ended ∧ ran.2 = released ended := by
  intro ran cut askings
  obtain ⟨hfree, hdirty, hchain, scope, hscope⟩ := stages_of_cancelled hcancelled
  have hran : ran = _ := run_eq host options hfree hdirty hchain hscope
  have hupTo : ran.1.steps = (host.upToRestoration n chain options scope s).1.steps ∧
      ran.1.cancelled = (host.upToRestoration n chain options scope s).1.cancelled := by
    rw [hran]
    exact ⟨rfl, rfl⟩
  have hstopped := hupTo.2.symm.trans hcancelled
  obtain ⟨hreport, hsession⟩ :=
    run_take hremarks hfree hdirty hchain hscope hstopped (hupTo.1 ▸ hsteps)
  obtain ⟨hlength, hnone, hgone, -, -⟩ := upToRestoration_take hremarks hstopped
  obtain ⟨announced, hannounced, htold⟩ := askings_told host options hfree hdirty hchain hscope
  obtain ⟨_, _, hstepped⟩ := upToRestore_stepped host (courseOf host.poll n chain options) chain
    (.at s.app.settings scope (s.document n).language) (held s)
  obtain ⟨cause, saved, hsave, hsaid, -⟩ := fromRestore_cases (courseOf host.poll n chain options)
    (s.document n).text (host.upToRestoration n chain options scope s).1
    (host.upToRestoration n chain options scope s).2
  obtain ⟨hformatters, hgoing⟩ := htold.named_going
  refine ⟨hupTo.1 ▸ hlength, hreport, hsession, hupTo.1.trans htold.steps.symm, ?_, hgoing, scope,
    cause, saved, _, hscope, hgone,
    fun heach => hstepped.clean heach hnone (.inr (hupTo.1 ▸ hsteps)), hnone ▸ hsave, hsaid,
    congrArg Prod.snd hran⟩
  rw [hupTo.1, ← hformatters, ← htold.steps, List.map_map]
  rfl

/-- The person wants it to stop while the first of two formatters formats. Its text is saved, and
the second one is not asked. -/
theorem run_cancelled_in_first_step :
    let stopping : Formatter :=
      { id := "fmtA"
        onDisk := false
        format := fun _ => ExceptT.mk do
          modify fun s => { s with cancelled := true }
          return .ok (.text "b") }
    let other : Formatter := { id := "fmtB", onDisk := false, format := fun _ => pure (.text "c") }
    let host : Host := ⟨.ofFormatters [stopping, other], fun _ => pure ()⟩
    let chain : Chain := ⟨["fmtA", "fmtB"], by decide⟩
    let options : RunOptions := ⟨50, true, false, ⟨3, 10⟩⟩
    let s : Session :=
      { app := { settings := { layers := { workspace := some .empty } } }
        documents := [⟨⟨"/a.rs"⟩, "rust", "a", none, .memory, 1⟩] }
    host.IgnoresRemarks ∧ (host.run 0 chain options s).1.cancelled = true ∧
      (host.run 0 chain options s).1.steps ≠ [] ∧
      (host.run 0 (chain.take 1) options s).1.edit = .replace "b" ∧
      (host.run 0 (chain.take 1) options s).1.steps.map StepReport.formatter = ["fmtA"] ∧
      ((host.run 0 (chain.take 1) options s).2.document 0).saved = some "b" := by
  intro stopping other host chain options s
  have hremarks : host.IgnoresRemarks := by
    refine ⟨fun _ => Action.matches_pure (), fun id => ?_⟩
    have hstopping : stopping.Matches (AgreeWhile fun _ => True) stopping :=
      ⟨rfl, rfl, fun _ _ _ h =>
        ⟨rfl, congrArg (fun s => { s with cancelled := true }) h.1, trivial⟩⟩
    have hother : other.Matches (AgreeWhile fun _ => True) other :=
      ⟨rfl, rfl, fun _ => Attempt.matches_pure _⟩
    have hmatches : ∀ f ∈ [stopping, other], f.Matches (AgreeWhile fun _ => True) f := by
      simp [hstopping, hother]
    cases hget : host.formatters.get? id with
    | none => exact .none
    | some f => exact .some (hmatches f (Registry.mem_of_get? hget))
  have hcancelled : (host.run 0 chain options s).1.cancelled = true := by decide +kernel
  have hlength : (host.run 0 chain options s).1.steps.length = 1 := by decide +kernel
  have hsteps := List.ne_nil_of_length_eq_add_one hlength
  obtain ⟨-, hreport, hsession, -⟩ := run_cancelled hremarks 0 chain options s hcancelled hsteps
  rw [hlength] at hreport hsession
  have hformatters : (host.run 0 chain options s).1.steps.map StepReport.formatter = ["fmtA"] := by
    decide +kernel
  have hsaved : ((host.run 0 chain options s).2.document 0).saved = some "b" := by decide +kernel
  refine ⟨hremarks, hcancelled, hsteps, ?_, ?_,
    (congrArg (fun s => (s.document 0).saved) hsession).trans hsaved⟩
  · rw [hreport]
    decide +kernel
  · rw [hreport]
    exact hformatters

end Host

end FormatChain
