import FormatChain.Proofs.Run.Cancelling
import FormatChain.Proofs.Run.Nesting
import FormatChain.Proofs.Run.Passing
import FormatChain.Proofs.Run.Reports

/-!
# A run after a run

A run that was to save at some time ends with a clean document, whatever its formatters and those
who are active meanwhile did to the document, the settings and the files.  So the next run finds
nothing to do.

* `Host.Stepped.steps_ne_nil` : if nothing stops them, some formatter has its step.
* `Host.fromRestore_clean` : what a run does after its formatters leaves a clean document.
* `Host.runWith_of_clean` : a run on a clean document, in full.
* `Host.runWith_not_repeated` : after a run that saved, every further run is skipped.
-/

namespace FormatChain.Host

variable {host : Host} {course : Course} {confirm : Confirmer} {n : Nat} {chain : Chain}
  {options : RunOptions} {s s' : Session}

/-! ## The document at the end of a run -/

/-- If there are formatters, and they neither are cancelled nor fail, they have their steps. -/
theorem Stepped.steps_ne_nil {index : Nat} {ids : List String} {slot : Slot}
    {fingerprint : Fingerprint} {stepping : Stepping}
    (h : Stepped host course index ids slot fingerprint s stepping s') (hids : ids ≠ [])
    (hgoing : stepping.cancelled = false) (hnone : stepping.failure = none) :
    stepping.steps ≠ [] := by
  have hends := h.ends
  rw [hgoing, hnone] at hends
  generalize hreported : stepping.steps.map StepReport.formatter = reported at hends
  cases hends with
  | all => exact fun hsteps => hids (by rw [← hreported, hsteps, List.map_nil])

/-- A run that was to save ends with a clean document, if it does not fail.  If it was to save after
each formatter, the document is clean from the last step on. -/
theorem fromRestore_clean (original : String) {stepping : Stepping}
    (hsaves : course.options.saveAfterEach = true ∨ course.options.saveAfterChain = true)
    (heach : course.options.saveAfterEach = true → stepping.failure = none →
      (s.document course.document).isDirty = false)
    (hnone : (fromRestore course original stepping s).1.failure = none) :
    ((fromRestore course original stepping s).2.document course.document).isDirty = false := by
  obtain ⟨cause, saved, hsave, hsaid, hreport⟩ := fromRestore_cases course original stepping s
  rw [hreport] at hnone
  rw [hsaid.document]
  cases hsave with
  | refused _ _ _ => exact absurd hnone (by simp)
  | saved _ hsaved => exact hsaved.clean
  | unwanted hunwanted =>
    rw [restore_document]
    cases hoption : course.options.saveAfterEach with
    | true => exact heach hoption hnone
    | false =>
      have hchain : course.options.saveAfterChain = true := by simpa [hoption] using hsaves
      have hnone : stepping.failure = none := hnone
      simpa [SavesAfterChain, hoption, hchain, hnone, restore_document] using hunwanted

/-- **A run that saved leaves a clean document.** -/
theorem Ran.clean {report : RunReport} (h : Ran host confirm n chain options s report s')
    (hdone : ∀ reason, report.edit ≠ .skipped reason) (hgoing : report.cancelled = false)
    (hnone : report.failure = none)
    (hsaves : options.saveAfterEach = true ∨ options.saveAfterChain = true) :
    (s'.document n).isDirty = false := by
  cases h with
  | alreadyRunning _ _ | notDirty _ _ _ | emptyChain _ _ _ _ => exact absurd rfl (hdone _)
  | uncaptured _ _ _ _ _ => exact absurd hnone (by simp)
  | @completed slot stepping stepped ended _ _ _ hchain _ hstepped hended =>
    let course := courseOf confirm n chain options
    obtain ⟨announced, -, hsteps⟩ := upToRestore_stepped host course chain slot (held s)
    rw [hstepped] at hsteps
    obtain ⟨cause, saved, -, -, hreport⟩ :=
      fromRestore_cases course (s.document n).text stepping stepped
    have hcancelled : stepping.cancelled = false := by
      rw [hended] at hreport
      exact (congrArg RunReport.cancelled hreport).symm.trans hgoing
    have heach : course.options.saveAfterEach = true → stepping.failure = none →
        (stepped.document course.document).isDirty = false := fun heach hfailure =>
      hsteps.clean heach hfailure (.inr (hsteps.steps_ne_nil hchain hcancelled hfailure))
    have hclean := fromRestore_clean (s.document n).text hsaves heach
    rw [hended] at hclean
    exact hclean hnone

/-! ## The next run -/

theorem runIfNeeded_of_clean (host : Host) (course : Course) (chain : Chain)
    (hclean : (s.document course.document).isDirty = false) :
    host.runIfNeeded course chain s = (.skipped .notDirty, (Action.debug
      s!"No unsaved changes in {(s.document course.document).path.text}. Skipping." s).2) := by
  rw [runIfNeeded, Action.bind_apply, Action.document_apply]
  simp only [hclean, Bool.not_false, if_true]
  rfl

/-- A remark adds to the history at most. -/
theorem debug_apply (text : String) (s : Session) :
    (Action.debug text s).2 =
      { s with history := (if s.verbose then
          [.logged ("[DEBUG] " ++ text) Settings.programName] else []) ++ s.history } := by
  rw [Action.debug, Action.bind_apply, Action.get_apply]
  by_cases hverbose : s.verbose = true
  · rw [if_pos hverbose, if_pos hverbose]
    rfl
  · rw [if_neg hverbose, if_neg hverbose]
    rfl

/-- To take a guard that is free, make a remark and give the guard back is to make the remark. -/
theorem released_debug_held (hfree : s.app.guard.held = false) (text : String) :
    released (Action.debug text (held s)).2 = (Action.debug text s).2 := by
  have hguard : (⟨false⟩ : Guard) = s.app.guard := by rw [← hfree]
  rw [debug_apply, debug_apply]
  change { s with app := { s.app with guard := ⟨false⟩ }, history := _ } = _
  rw [hguard]
  rfl

/-- A run on a clean document is skipped, and only remarks on it. -/
theorem runWith_of_clean (host : Host) (confirm : Confirmer) (chain : Chain) (options : RunOptions)
    (hfree : s.app.guard.held = false) (hclean : (s.document n).isDirty = false) :
    host.runWith confirm n chain options s = (.skipped .notDirty,
      (Action.debug s!"No unsaved changes in {(s.document n).path.text}. Skipping." s).2) := by
  rw [runWith_of_free hfree, runIfNeeded_of_clean (s := held s) host
    (courseOf confirm n chain options) chain hclean]
  exact Prod.ext rfl (released_debug_held hfree _)

/-- **A saved run is not repeated.**  Take a run that is neither skipped nor cancelled, reports no
failure and was to save after each formatter or after the chain.  Whatever its formatters and those
who were active meanwhile did, the document is clean when it returns.  And a run that follows, of
any editor with any chain and options, whether or not the person wants it to stop, has nothing to
do: it leaves the session as it is but for its remark. -/
theorem runWith_not_repeated {report : RunReport}
    (hran : host.runWith confirm n chain options s = (report, s'))
    (hdone : ∀ reason, report.edit ≠ .skipped reason) (hgoing : report.cancelled = false)
    (hnone : report.failure = none)
    (hsaves : options.saveAfterEach = true ∨ options.saveAfterChain = true) :
    (s'.document n).isDirty = false ∧
      ∀ (again : Host) (looking : Confirmer) (others : Chain) (how : RunOptions) (cancelled : Bool),
        let t := { s' with cancelled }
        again.runWith looking n others how t = (.skipped .notDirty,
          (Action.debug s!"No unsaved changes in {(t.document n).path.text}. Skipping." t).2) := by
  have hcame : Ran host confirm n chain options s (host.runWith confirm n chain options s).1
      (host.runWith confirm n chain options s).2 := runWith_ran host confirm n chain options s
  have hguard : (host.runWith confirm n chain options s).2.app.guard = s.app.guard :=
    runWith_guard host confirm n chain options s
  rw [hran] at hcame hguard
  have hclean := hcame.clean hdone hgoing hnone hsaves
  have hfree : s'.app.guard.held = false := by
    rw [hguard]
    cases hheld : s.app.guard.held with
    | false => rfl
    | true =>
      rw [runWith_held host confirm n chain options hheld] at hran
      exact absurd (congrArg RunReport.edit (Prod.mk.inj hran).1).symm (hdone _)
  exact ⟨hclean, fun again looking others how cancelled =>
    runWith_of_clean (s := { s' with cancelled }) again looking others how hfree hclean⟩

/-- A formatter on disk rewrites the file after another one changed the text, and somebody types
into the document during each sleep. -/
theorem runWith_not_repeated_on_disk :
    let change : Formatter := ⟨"change", false, fun request => pure (.text (request.text ++ "b"))⟩
    let rewrite : Formatter := ⟨"rewrite", true, fun request => do
      Attempt.writeText request.path "c"
      return .fileUpdated⟩
    let host : Host := ⟨.ofFormatters [change, rewrite], fun _ =>
      Action.changeDocument 0 fun d => d.setText (d.text ++ "!")⟩
    let chain : Chain := ⟨["change", "rewrite", "change"], by decide⟩
    let options : RunOptions :=
      { delay := 50, saveAfterChain := true, saveAfterEach := false, activation := ⟨3, 10⟩ }
    let s : Session :=
      { disk := Disk.ofFiles [(⟨"/a.rs"⟩, "a")]
        outside := some {}
        app := { settings := { layers := { workspace := some .empty } } }
        documents := [⟨⟨"/a.rs"⟩, "rust", "a", none, .disk, 1⟩] }
    let ran := host.run 0 chain options s
    ran.1.edit = .replace "c!!b!" ∧ (∀ reason, ran.1.edit ≠ .skipped reason) ∧
      ran.1.cancelled = false ∧ ran.1.failure = none ∧ options.saveAfterChain = true ∧
      (ran.2.document 0).isDirty = false ∧
      (host.run 0 chain options { ran.2 with cancelled := true }).1 = .skipped .notDirty := by
  intro change rewrite host chain options s ran
  have hran : (host.run 0 chain options s).1.edit = .replace "c!!b!" ∧
      (host.run 0 chain options s).1.cancelled = false ∧
      (host.run 0 chain options s).1.failure.isNone = true := by
    decide +kernel +revert
  obtain ⟨hedit, hgoing, hnone⟩ := hran
  have hsaves : options.saveAfterChain = true := rfl
  -- From here on nothing is evaluated.
  clear_value host chain options s
  have hnone : ran.1.failure = none := Option.isNone_iff_eq_none.1 hnone
  have hdone : ∀ reason, ran.1.edit ≠ .skipped reason := by
    intro reason
    rw [show ran.1.edit = .replace "c!!b!" from hedit]
    simp
  have hreturned : host.runWith host.poll 0 chain options s = (ran.1, ran.2) := rfl
  obtain ⟨hclean, hagain⟩ := runWith_not_repeated hreturned hdone hgoing hnone (.inr hsaves)
  exact ⟨hedit, hdone, hgoing, hnone, hsaves, hclean,
    congrArg Prod.fst (hagain host host.poll chain options true)⟩

end FormatChain.Host
