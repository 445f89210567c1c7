import FormatChain.Proofs.Command.Preparing
import FormatChain.Proofs.Run.Stages

/-!
# How a run is reported

After the run on a file the person gets to know of each formatter that failed, of a cancellation,
and of how the run ended.  Before that the file is written if the run changed the text and nobody
saved it.  If this last write is refused, the person gets to know of nothing that happened in the
run.

* `Command.announcements`, `Command.verdict` : what the person gets to know, and how it ends.
* `Command.announce_notifications` : telling the person does just that.
* `Command.writeUnwritten`, `Command.run_formatDocument_cases` : the run, the last write, and the
  report.
* `Command.formatFile_reports` : when a run that went wrong is reported as such.
-/

namespace FormatChain.Command

open FormatChain.Session (AllowsWords SameNotifications WithEvents withEvents_allowsWords)
open FormatChain.Host (Saved SavedIf)

variable {path : Path} {report : RunReport} {s s' : Session} {n : Nat} {host : Host}

/-! ## Telling how a run went -/

/-- The message about a formatter that failed. -/
def failedMessage (id : String) (failure : Failure) : NotificationKind × String :=
  (.error, s!"Formatter '{id}' failed. {failure.text}")

/-- The failure of a run that ended early. -/
def stopped (path : Path) (failure : RunFailure) : Failure :=
  .runStopped path failure.formatter failure.cause

/-- What the person gets to know about a run on a file. -/
def announcements (path : Path) (report : RunReport) : List (NotificationKind × String) :=
  report.failedSteps.map (fun step => failedMessage step.1 step.2) ++
    (if report.cancelled then [(.warning, s!"Formatting {path.text} was cancelled.")] else []) ++
    match report.failure with
    | some failure => [(.error, (stopped path failure).text)]
    | none => (outcomeMessage path report.edit).toList.map (.info, ·)

/-- How formatting a file ends after a run. -/
def verdict (path : Path) (report : RunReport) : Except Failure Unit :=
  match report.failure with
  | some failure => .error (stopped path failure)
  | none => .ok ()

theorem run_forM_lift {α : Type} (f : α → Action PUnit) (items : List α) (s : Session) :
    (items.forM fun a => (liftM (f a) : Attempt PUnit)).run s = (.ok (), (items.forM f s).2) := by
  induction items generalizing s with
  | nil => rfl
  | cons a rest ih =>
    change ((liftM (f a) : Attempt PUnit) >>= fun _ =>
      rest.forM fun a => (liftM (f a) : Attempt PUnit)).run s = _
    rw [Attempt.run_lift_bind]
    exact ih (f a s).2

/-- Telling what happened in a run, without how it ended. -/
def remarkOnRun (path : Path) (report : RunReport) : Action Unit := do
  report.steps.forM remarkOnStep
  report.failedSteps.forM fun (id, failure) =>
    Action.notify .error s!"Formatter '{id}' failed. {failure.text}"
  if report.cancelled then
    Action.notify .warning s!"Formatting {path.text} was cancelled."

/-- Telling how a run ended. -/
def remarkOnEnd (path : Path) (report : RunReport) : Action Unit :=
  match report.failure with
  | some failure => Action.notify .error (stopped path failure).text
  | none =>
    match outcomeMessage path report.edit with
    | some message => Action.notify .info message
    | none => pure ()

theorem run_announce_eq (path : Path) (report : RunReport) (s : Session) :
    (announce path report).run s =
      (verdict path report, (remarkOnEnd path report (remarkOnRun path report s).2).2) := by
  rw [announce, Attempt.run_bind_ok (run_forM_lift _ _ _),
    Attempt.run_bind_ok (run_forM_lift _ _ _)]
  simp only [remarkOnRun, remarkOnEnd, verdict, Action.bind_apply]
  cases report.cancelled with
  | true =>
    simp only [if_true, Attempt.run_lift_bind]
    cases report.failure with
    | some failure => rfl
    | none => cases outcomeMessage path report.edit <;> rfl
  | false =>
    simp only [Bool.false_eq_true, if_false]
    cases report.failure with
    | some failure => rfl
    | none => cases outcomeMessage path report.edit <;> rfl

theorem remarkOnRun_notifies (path : Path) (report : RunReport) :
    Action.Notifies (report.failedSteps.map (fun step => failedMessage step.1 step.2) ++
      if report.cancelled then [(.warning, s!"Formatting {path.text} was cancelled.")] else [])
      (remarkOnRun path report) := by
  have hsteps : Action.Notifies [] (report.steps.forM remarkOnStep) := by
    have h := Action.Notifies.forM (fun step => Action.notifies_debug _ :
      ∀ step, Action.Notifies [] (remarkOnStep step)) report.steps
    rwa [List.flatMap_eq_nil_iff.2 fun _ _ => rfl] at h
  have hfailed := Action.Notifies.forM (fun step => Action.notifies_notify .error _ :
    ∀ step : String × Failure, Action.Notifies [failedMessage step.1 step.2]
      (Action.notify .error s!"Formatter '{step.1}' failed. {step.2.text}")) report.failedSteps
  rw [List.map_eq_flatMap]
  refine hsteps.bind fun _ => hfailed.bind fun _ => ?_
  cases report.cancelled with
  | true => exact Action.notifies_notify _ _
  | false => exact Action.notifies_pure _

theorem remarkOnEnd_notifies (path : Path) (report : RunReport) :
    Action.Notifies (match report.failure with
      | some failure => [(.error, (stopped path failure).text)]
      | none => (outcomeMessage path report.edit).toList.map (.info, ·))
      (remarkOnEnd path report) := by
  unfold remarkOnEnd
  cases report.failure with
  | some failure => exact Action.notifies_notify _ _
  | none =>
    cases outcomeMessage path report.edit with
    | some message => exact Action.notifies_notify _ _
    | none => exact Action.notifies_pure _

theorem announce_leads {R : Session → Session → Prop} [IsPreorder Session R]
    (h : AllowsWords R) (path : Path) (report : RunReport) :
    Attempt.Leads R (announce path report) := by
  intro s
  rw [run_announce_eq]
  have hrun : Action.Leads R (remarkOnRun path report) := by
    refine (Action.Leads.forM (fun _ => h.debug _) _).bind fun _ => ?_
    refine (Action.Leads.forM (fun _ => h.notify _ _) _).bind fun _ => ?_
    exact Action.Leads.ite (h.notify _ _) (Action.leads_pure _)
  have hend : Action.Leads R (remarkOnEnd path report) := by
    unfold remarkOnEnd
    split
    · exact h.notify _ _
    · split
      · exact h.notify _ _
      · exact Action.leads_pure _
  exact hend.after (hrun s)

theorem announce_onlySays (path : Path) (report : RunReport) :
    Attempt.Leads WithEvents (announce path report) :=
  announce_leads withEvents_allowsWords path report

/-- **The person gets to know all of this, in this order.** -/
theorem announce_notifications (path : Path) (report : RunReport) (s : Session) :
    ((announce path report).run s).2.notifications =
      s.notifications ++ announcements path report := by
  rw [run_announce_eq, remarkOnEnd_notifies, remarkOnRun_notifies, announcements,
    List.append_assoc]

/-! ## The last write -/

/-- Whether the file is still to be written after a run: the text changed, and nobody saved it. -/
def IsUnwritten (report : RunReport) (d : Document) : Prop :=
  (∃ text, report.edit = .replace text) ∧ d.isDirty = true

theorem saveDocument_sameNotifications (n : Nat) :
    Attempt.Leads SameNotifications (Host.saveDocument n) :=
  Host.saveDocument_leads (fun _ => (Action.notifies_debug _).sameNotifications)
    (fun p text disk s =>
      (Action.notifies_record (.wrote p text)).sameNotifications { s with disk }) fun _ => rfl

/-- Writes what a run made of a document and did not save. -/
def writeUnwritten (n : Nat) (d : Document) (edit : EditResult) : Attempt Unit :=
  match edit with
  | .replace _ => if d.isDirty then Host.saveDocument n else pure ()
  | _ => pure ()

theorem run_formatDocument_eq {after : Session}
    (hran : runLanguageChain host n s = (report, after)) :
    (formatDocument host n).run s =
      (writeUnwritten n (after.document n) report.edit >>= fun _ =>
        announce (after.document n).path report).run after := by
  rw [formatDocument, Attempt.run_lift_bind, hran, Attempt.run_lift_bind, Action.document_apply]
  unfold writeUnwritten
  cases report.edit with
  | replace text => cases (after.document n).isDirty <;> rfl
  | noChanges => rfl
  | skipped reason => rfl

/-- **Formatting a document is a run, a write if the file is unwritten, and a report.** If the write
is refused there is no report. -/
theorem run_formatDocument_cases {after : Session}
    (hran : runLanguageChain host n s = (report, after)) :
    ∃ cause saved, SavedIf n (IsUnwritten report (after.document n)) after cause saved ∧
      SameNotifications after saved ∧
      (formatDocument host n).run s =
        cause.elim ((announce (after.document n).path report).run saved)
          fun e => (.error e, saved) := by
  have hsaved := Host.saveDocument_saved n after
  have hsame := saveDocument_sameNotifications n after
  rw [run_formatDocument_eq hran]
  unfold writeUnwritten
  by_cases hwanted : IsUnwritten report (after.document n)
  · obtain ⟨⟨text, hedit⟩, hdirty⟩ := id hwanted
    simp only [hedit, hdirty, if_true]
    rcases hsave : (Host.saveDocument n).run after with ⟨e | ⟨⟩, saved⟩
    · rw [hsave] at hsaved hsame
      exact ⟨some e, saved, .refused hwanted hsaved (refl _), hsame, Attempt.run_bind_error hsave⟩
    · rw [hsave] at hsaved hsame
      exact ⟨none, saved, .saved hwanted hsaved, hsame, Attempt.run_bind_ok hsave⟩
  · refine ⟨none, after, .unwanted hwanted, refl _, ?_⟩
    have hrest := Attempt.run_pure () after
    cases hedit : report.edit with
    | replace text =>
      have hclean : (after.document n).isDirty = false := by
        simpa [IsUnwritten, hedit] using hwanted
      simp only [hclean, Bool.false_eq_true, if_false]
      exact Attempt.run_bind_ok hrest
    | noChanges => exact Attempt.run_bind_ok hrest
    | skipped reason => exact Attempt.run_bind_ok hrest

/-- The last write is refused, for this reason. -/
def LastWriteRefused (n : Nat) (report : RunReport) (s : Session) (e : Failure) : Prop :=
  IsUnwritten report (s.document n) ∧ (s.document n).target = .disk ∧
    s.write (s.document n).path (s.document n).text = .error e

/-- A file that is not written is no special end of the program. -/
theorem exitCode_of_write {p : Path} {text : String} {e : Failure}
    (h : s.write p text = .error e) : e.exitCode = 1 := by
  rcases Session.write_eq_error h with rfl | ⟨cause, rfl⟩
  · rfl
  · rfl

/-- How a document is formatted and what the person gets to know: the failure and nothing, if the
last write is refused, and otherwise all about the run. -/
theorem run_formatDocument_reports {after : Session}
    (hran : runLanguageChain host n s = (report, after)) :
    (∃ e, LastWriteRefused n report after e ∧ ((formatDocument host n).run s).1 = .error e ∧
      ((formatDocument host n).run s).2.notifications = after.notifications) ∨
    ((∀ e, ¬ LastWriteRefused n report after e) ∧
      ((formatDocument host n).run s).1 = verdict (after.document n).path report ∧
      ((formatDocument host n).run s).2.notifications =
        after.notifications ++ announcements (after.document n).path report) := by
  obtain ⟨cause, saved, hsave, hsame, hrun⟩ := run_formatDocument_cases hran
  rw [hrun]
  cases hsave with
  | unwanted h =>
    refine .inr ⟨fun e hrefused => h hrefused.1, ?_, ?_⟩
    · rw [Option.elim_none, run_announce_eq]
    · rw [Option.elim_none, announce_notifications]
  | saved h hsaved =>
    refine .inr ⟨fun e hrefused => ?_, ?_, ?_⟩
    · cases hsaved with
      | remembered htarget _ => exact absurd (hrefused.2.1.symm.trans htarget) (by simp)
      | written _ hwrite _ => exact absurd (hwrite.symm.trans hrefused.2.2) (by simp)
    · rw [Option.elim_none, run_announce_eq]
    · rw [Option.elim_none, announce_notifications, hsame]
  | refused h hsaved hsaid =>
    cases hsaved with
    | refused htarget hwrite _ => exact .inl ⟨_, ⟨h, htarget, hwrite⟩, rfl, hsame⟩

/-- A run is reported as it went, by the result and the messages since: if it ended early the result
says so and the person gets to know it, and so of each formatter that failed. -/
def IsReported (path : Path) (report : RunReport) (before : Session)
    (result : Except Failure Unit) (s : Session) : Prop :=
  ∃ messages, s.notifications = before.notifications ++ messages ∧
    (∀ failure, report.failure = some failure →
      result = .error (stopped path failure) ∧ (stopped path failure).exitCode = 12 ∧
        (.error, (stopped path failure).text) ∈ messages) ∧
    ∀ step ∈ report.steps, ∀ failure, step.failure = some failure →
      failedMessage step.formatter failure ∈ messages

theorem mem_failedSteps {step : StepReport} {failure : Failure} (hstep : step ∈ report.steps)
    (hfailure : step.failure = some failure) :
    (step.formatter, failure) ∈ report.failedSteps :=
  List.mem_filterMap.2 ⟨step, hstep, by simp [hfailure]⟩

/-- What is told about a run reports it as it went. -/
theorem isReported_of_announcements {before : Session}
    (h : s.notifications = before.notifications ++ announcements path report) :
    IsReported path report before (verdict path report) s := by
  refine ⟨_, h, fun failure hfailure => ⟨?_, rfl, ?_⟩, fun step hstep failure hfailure => ?_⟩
  · rw [verdict, hfailure]
  · rw [announcements, hfailure]
    exact List.mem_append_right _ (List.mem_singleton_self _)
  · refine List.mem_append_left _ (List.mem_append_left _ ?_)
    exact List.mem_map.2 ⟨_, mem_failedSteps hstep hfailure, rfl⟩

/-- If nothing is told about a run, it is only reported as it went if nothing went wrong. -/
theorem nothing_wrong_of_isReported {before : Session} {result : Except Failure Unit}
    (hsilent : s.notifications = before.notifications)
    (h : IsReported path report before result s) :
    report.failure = none ∧ report.failedSteps = [] := by
  obtain ⟨messages, hmessages, hfailure, hsteps⟩ := h
  have hnone : messages = [] := List.self_eq_append_right.1 (hsilent.symm.trans hmessages)
  subst hnone
  constructor
  · cases hreport : report.failure with
    | none => rfl
    | some failure => exact absurd (hfailure failure hreport).2.2 List.not_mem_nil
  · refine List.eq_nil_iff_forall_not_mem.2 fun failed hmem => ?_
    obtain ⟨step, hstep, hfailed⟩ := List.mem_filterMap.1 hmem
    obtain ⟨failure, hcause, -⟩ := Option.map_eq_some_iff.1 hfailed
    exact absurd (hsteps step hstep failure hcause) List.not_mem_nil

theorem isReported_of_nothing_wrong {before : Session} {result : Except Failure Unit}
    (hsilent : s.notifications = before.notifications) (hfailure : report.failure = none)
    (hsteps : report.failedSteps = []) : IsReported path report before result s := by
  refine ⟨[], hsilent.trans (List.append_nil _).symm, fun failure h => ?_,
    fun step hstep failure h => ?_⟩
  · exact absurd (hfailure.symm.trans h) (by simp)
  · have hmem := mem_failedSteps hstep h
    rw [hsteps] at hmem
    exact absurd hmem List.not_mem_nil

/-- **When a run that went wrong is reported as such.**  Take a file that was prepared, and the
report of the run on it.  Unless the last write of the file is refused, the result says where and
why the run ended early if it did, with an exit code of its own, and the person gets messages about
it and about each formatter that failed.  If the last write is refused, its failure is the result
and the person gets no message, so that whatever went wrong in the run is lost. -/
theorem formatFile_reports {bench : Workbench} {file : String} {language : Option String}
    {d : Document} {prepared : Session}
    (h : (prepare bench file language).run s = (.ok (some (host, d)), prepared)) :
    let n := prepared.documents.length
    let ran := runLanguageChain host n (opened d prepared)
    let path := (ran.2.document n).path
    let result := (formatFile bench file language).run s
    (IsReported path ran.1 ran.2 result.1 result.2 ↔
      ¬ ((∃ e, LastWriteRefused n ran.1 ran.2 e) ∧
        (ran.1.failure.isSome = true ∨ ran.1.failedSteps ≠ []))) ∧
    ∀ e, LastWriteRefused n ran.1 ran.2 e →
      result.1 = .error e ∧ e.exitCode = 1 ∧ result.2.notifications = ran.2.notifications := by
  intro n ran path result
  obtain ⟨hvalue, hmessages, -⟩ := run_formatFile h
  have hran : runLanguageChain host n (opened d prepared) = (ran.1, ran.2) := rfl
  rcases run_formatDocument_reports hran with
    ⟨e, hrefused, hlost, hsilent⟩ | ⟨hwritten, htold, hall⟩
  · refine ⟨⟨fun hreported hwrong => ?_, fun hright => ?_⟩, fun e' hrefused' => ?_⟩
    · obtain ⟨hfailure, hsteps⟩ := nothing_wrong_of_isReported (hmessages.trans hsilent) hreported
      rcases hwrong.2 with hsome | hfailed
      · rw [hfailure] at hsome
        exact absurd hsome (by simp)
      · exact hfailed hsteps
    · have hfailure : ran.1.failure = none := by
        cases hfailed : ran.1.failure with
        | none => rfl
        | some failure => exact absurd ⟨⟨e, hrefused⟩, .inl (by simp [hfailed])⟩ hright
      have hsteps : ran.1.failedSteps = [] := by
        by_cases hfailed : ran.1.failedSteps = []
        · exact hfailed
        · exact absurd ⟨⟨e, hrefused⟩, .inr hfailed⟩ hright
      exact isReported_of_nothing_wrong (hmessages.trans hsilent) hfailure hsteps
    · obtain rfl : e' = e := Except.error.inj (hrefused'.2.2.symm.trans hrefused.2.2)
      exact ⟨hvalue.trans hlost, exitCode_of_write hrefused.2.2, hmessages.trans hsilent⟩
  · refine ⟨⟨fun _ hwrong => ?_, fun _ => ?_⟩, fun e hrefused => absurd hrefused (hwritten e)⟩
    · obtain ⟨e, hrefused⟩ := hwrong.1
      exact hwritten e hrefused
    · rw [hvalue, htold]
      exact isReported_of_announcements (hmessages.trans hall)

/-- The run on a file that must not be written ends where it is to be saved, and this is not what is
reported. -/
theorem formatFile_reports_only_the_file :
    let append : Formatter := ⟨"append", false, fun request => pure (.text (request.text ++ "!"))⟩
    let formatters : Registry := .ofFormatters [append]
    let bench : Workbench := ⟨⟨"/"⟩, fun _ => pure formatters, fun _ => pure ()⟩
    let settings := "\x7b\"chainfmt.formatters\": [\"append\"]\x7d"
    let files := [(⟨"/a.rs"⟩, "a"), (⟨"/.chainfmt/settings.json"⟩, settings)]
    let s : Session :=
      { disk := { Disk.ofFiles files with readOnly := [⟨"/a.rs"⟩] }, outside := some {} }
    let host : Host := ⟨formatters, fun _ => pure ()⟩
    let d : Document := ⟨⟨"/a.rs"⟩, "rust", "a", none, .disk, 1⟩
    let prepared := ((prepare bench "a.rs" (some "rust")).run s).2
    let n := prepared.documents.length
    let ran := runLanguageChain host n (opened d prepared)
    let result := (formatFile bench "a.rs" (some "rust")).run s
    ran.1.failure.isSome = true ∧ result.1 = .error (.fileReadOnly d.path) ∧
      ¬ IsReported (ran.2.document n).path ran.1 ran.2 result.1 result.2 := by
  intro append formatters bench settings files s host d prepared n ran result
  have hprepared : (prepare bench "a.rs" (some "rust")).run s =
      (.ok (some (host, d)), prepared) := by
    -- Only closed terms are evaluated.
    subst append formatters bench settings files s host d prepared n ran
    rfl
  have hran : ran.1.failure.isSome = true ∧ ran.1.edit = .replace "a!" ∧
      (ran.2.document n).isDirty = true ∧ (ran.2.document n).target = .disk ∧
      (ran.2.document n).path = d.path ∧ ran.2.inMemory = true ∧
      ran.2.isReadOnly d.path = true := by
    subst append formatters bench settings files s host d prepared n ran
    decide +kernel
  obtain ⟨hfailed, hedit, hdirty, htarget, hpath, hmemory, hreadOnly⟩ := hran
  have hrefused : LastWriteRefused n ran.1 ran.2 (.fileReadOnly d.path) := by
    refine ⟨⟨⟨_, hedit⟩, hdirty⟩, htarget, ?_⟩
    rw [hpath, Session.write, if_pos hmemory, Session.writeMemory, if_pos hreadOnly]
  clear_value append formatters bench settings files s host d prepared
  obtain ⟨hreported, hlost⟩ := formatFile_reports hprepared
  refine ⟨hfailed, (hlost _ hrefused).1, fun htold => ?_⟩
  exact hreported.1 htold ⟨⟨_, hrefused⟩, .inl hfailed⟩

end FormatChain.Command
