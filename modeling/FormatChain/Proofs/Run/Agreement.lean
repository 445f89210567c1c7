import FormatChain.Proofs.Run.InStep
import FormatChain.Proofs.Run.Stages

/-!
# Whether the file has the text of the document

A formatter that works on disk rewrites the file, and the document follows; any other formatter
changes the document, and the file follows when the document is saved.  A run keeps the two in step
as long as only formatters on disk rewrite the file, and only when they succeed.

* `Session.LeavesFile` : neither the document nor its file changes.
* `Formatter.MindsFile`, `Host.MindsFile` : who may rewrite the file of a document.
* `Host.Stepped.inStep` : the file is in step while formatters run.
* `Host.run_inStep` : the file is in step after a run, and has the text of the document if the run
  was to save.
-/

namespace FormatChain

open FormatChain.Session (WithEvents)

namespace Session

variable {s s' : Session} {n : Nat} {p : Path} {original : String}

/-- Neither the document of a number nor the file under a path changes. -/
structure LeavesFile (n : Nat) (p : Path) (s s' : Session) : Prop where
  document : s'.document n = s.document n
  read : s'.read p = s.read p
  holdsTexts : s.HoldsTexts p → s'.HoldsTexts p

instance : IsPreorder Session (LeavesFile n p) where
  refl _ := ⟨rfl, rfl, id⟩
  trans _ _ _ h h' :=
    ⟨h'.document.trans h.document, h'.read.trans h.read, fun hp => h'.holdsTexts (h.holdsTexts hp)⟩

theorem WithEvents.leavesFile (h : WithEvents s s') : LeavesFile n p s s' :=
  ⟨h.document n, h.read p, h.holdsTexts⟩

/-- There is a file under the path, which holds some text and could hold any other. -/
def IsFile (s : Session) (p : Path) : Prop := s.HoldsTexts p ∧ ∃ text, s.read p = .ok text

theorem InStep.isFile (h : s.InStep n p original) : s.IsFile p := ⟨h.holdsTexts, _, h.read⟩

theorem InStep.leavesFile (h : s.InStep n p original) (hleaves : LeavesFile n p s s') :
    s'.InStep n p original := by
  refine ⟨?_, ?_, hleaves.holdsTexts h.holdsTexts, ?_⟩
  · rw [hleaves.document, h.path]
  · rw [hleaves.document, h.target]
  · rw [hleaves.document, hleaves.read, h.read]

/-- The file under a path has the text of the document of a number. -/
def Agrees (s : Session) (n : Nat) (p : Path) : Prop := s.read p = .ok (s.document n).text

theorem LeavesFile.agrees_iff (h : LeavesFile n p s s') : s'.Agrees n p ↔ s.Agrees n p := by
  rw [Agrees, Agrees, h.read, h.document]

theorem Agrees.withEvents (h : s.Agrees n p) (hsaid : WithEvents s s') : s'.Agrees n p :=
  hsaid.leavesFile.agrees_iff.2 h

theorem Agrees.withApp (h : s.Agrees n p) (app : App) : { s with app }.Agrees n p := h

theorem InStep.agrees_of_clean (h : s.InStep n p original)
    (hclean : (s.document n).isDirty = false) : s.Agrees n p := h.read_of_clean hclean

end Session

open FormatChain.Session (LeavesFile)

/-- The formatter leaves the document of a number and the file under a path alone, except that it
may put any text into the file if it works on disk and succeeds. -/
structure Formatter.MindsFile (f : Formatter) (n : Nat) (p : Path) : Prop where
  failed : ∀ request s e s', (f.format request).run s = (.error e, s') → LeavesFile n p s s'
  offDisk : f.onDisk = false → ∀ request s output s', (f.format request).run s = (.ok output, s') →
    output ≠ .fileUpdated ∧ LeavesFile n p s s'
  onDisk : f.onDisk = true → ∀ request s output s', (f.format request).run s = (.ok output, s') →
    output = .fileUpdated ∧ s'.document n = s.document n ∧ (s.IsFile p → s'.IsFile p)

namespace Host

variable {host : Host} {course : Course} {n : Nat} {p : Path} {original : String}
  {s s' : Session}

/-- Nobody rewrites the file of a document, and nobody but the editor changes the document, except
for its formatters. -/
structure MindsFile (host : Host) (n : Nat) (p : Path) : Prop where
  idles : host.Idles (LeavesFile n p)
  formatters : ∀ id f, host.formatters.get? id = some f → f.MindsFile n p

/-! ## Single formatters -/

theorem inStep_of_taken {output : FormatOutput} {made taken : Session}
    {result : Except Failure Unit} (hin : made.InStep n p original)
    (houtput : output ≠ .fileUpdated) (htake : (takeOutput n output).run made = (result, taken)) :
    taken.InStep n p original := by
  cases output with
  | unchanged =>
    rw [run_takeOutput_unchanged] at htake
    obtain rfl : made = taken := (Prod.mk.inj htake).2
    exact hin
  | text text =>
    rw [run_takeOutput_text] at htake
    obtain rfl := (Prod.mk.inj htake).2
    exact hin.setText text
  | fileUpdated => exact absurd rfl houtput

/-- A file that a formatter rewrote is in step after the document took it over. -/
theorem inStep_of_reloaded {made taken : Session} {result : Except Failure Unit}
    (hpath : (made.document n).path = p) (htarget : (made.document n).target = .disk)
    (hfile : made.IsFile p) (htake : (takeOutput n .fileUpdated).run made = (result, taken)) :
    taken.InStep n p original := by
  obtain ⟨hholds, text, hread⟩ := hfile
  obtain ⟨said, hsaid, hrun⟩ := run_takeOutput_reloaded (n := n) (by rw [hpath]; exact hread)
  rw [hrun] at htake
  obtain rfl := (Prod.mk.inj htake).2
  refine Session.inStep_reload ?_ ?_ (hsaid.holdsTexts hholds) ?_
  · rw [hsaid.document, hpath]
  · rw [hsaid.document, htarget]
  · rw [hsaid.read, hread]

/-- **Formatting keeps the file in step.** -/
theorem Formatted.inStep {result : Except Failure Unit} (h : host.Formatted n s result s')
    (hminds : host.MindsFile n p) (hin : s.InStep n p original) : s'.InStep n p original := by
  -- What a formatter that was chosen leaves, and what the document makes of its output.
  have htaken {formatter : Formatter} {output : FormatOutput} {asked made taken : Session}
      {result : Except Failure Unit}
      (h : host.chooseFormatter s.app.settings (s.document n).language = .ok formatter)
      (hasked : WithEvents s asked)
      (hformat : (formatter.format (requestFor (s.document n))).run asked = (.ok output, made))
      (htake : (takeOutput n output).run made = (result, taken)) : taken.InStep n p original := by
    obtain ⟨id, -, hid⟩ := chooseFormatter_eq_ok_iff.1 h
    have hformatter := hminds.formatters id formatter hid
    have hinAsked := hin.withEvents hasked
    cases hdisk : formatter.onDisk with
    | false =>
      obtain ⟨houtput, hleaves⟩ := hformatter.offDisk hdisk _ _ _ _ hformat
      exact inStep_of_taken (hinAsked.leavesFile hleaves) houtput htake
    | true =>
      obtain ⟨rfl, hdocument, hfile⟩ := hformatter.onDisk hdisk _ _ _ _ hformat
      refine inStep_of_reloaded ?_ ?_ (hfile hinAsked.isFile) htake
      · rw [hdocument, hinAsked.path]
      · rw [hdocument, hinAsked.target]
  cases h with
  | unchosen _ => exact hin
  | failed h hasked hformat =>
    obtain ⟨id, -, hid⟩ := chooseFormatter_eq_ok_iff.1 h
    have hleaves := (hminds.formatters id _ hid).failed _ _ _ _ hformat
    exact (hin.withEvents hasked).leavesFile hleaves
  | untaken h hasked hformat htake => exact htaken h hasked hformat htake
  | taken h hasked hformat htake hsaid => exact (htaken h hasked hformat htake).withEvents hsaid

/-! ## All formatters -/

/-- With a save after each formatter, there is nothing to save after a step. -/
theorem clean_of_savedAfterStep (heach : course.options.saveAfterEach = true)
    (h : SavedIf course.document (SavesAfterStep course s) s none s') :
    (s'.document course.document).isDirty = false := by
  cases h with
  | unwanted hunwanted => simpa [SavesAfterStep, heach] using hunwanted
  | saved _ hsaved => exact hsaved.clean

theorem inStep_of_named {announced : Session} {settings : Settings}
    (hin : s.InStep n p original) (hannounced : WithEvents s announced) :
    { announced with app := { announced.app with settings } }.InStep n p original :=
  (hin.withEvents hannounced).withApp _

theorem runStep_inStep (hconfirm : course.confirm = host.poll)
    (hminds : host.MindsFile course.document p) (hin : s.InStep course.document p original)
    {slot : Slot} {index : Nat} {id : String} {fingerprint after : Fingerprint} {step : StepReport}
    (hran : host.runStep course slot index id fingerprint s = ((step, after), s')) :
    s'.InStep course.document p original := by
  obtain ⟨asked, hasked, hconclude, -, -⟩ := runStep_spec hminds.idles hconfirm hran
  have hformatted := formatDocument_formatted host course.document asked
  exact (hformatted.inStep hminds (hin.leavesFile hasked)).leavesFile hconclude

/-- **Running formatters keeps the file in step.** If there is a save after each of them and none is
refused, the file has the text of the document all the time. -/
theorem Stepped.inStep (hconfirm : course.confirm = host.poll)
    (hminds : host.MindsFile course.document p) {index : Nat} {ids : List String} {slot : Slot}
    {fingerprint : Fingerprint} {stepping : Stepping}
    (h : Stepped host course index ids slot fingerprint s stepping s')
    (hin : s.InStep course.document p original) :
    s'.InStep course.document p original ∧
      (course.options.saveAfterEach = true → s.Agrees course.document p →
        stepping.failure = none → s'.Agrees course.document p) := by
  induction h with
  | done => exact ⟨hin, fun _ hagrees _ => hagrees⟩
  | cancelled _ hsaid => exact ⟨hin.withEvents hsaid, fun _ hagrees _ => hagrees.withEvents hsaid⟩
  | refused _ _ hsaid => exact ⟨hin.withEvents hsaid, fun _ _ hnone => absurd hnone (by simp)⟩
  | unsaved _ hannounced _ hran hsave =>
    have hstepped := runStep_inStep hconfirm hminds (inStep_of_named hin hannounced) hran
    exact ⟨hstepped.withEvents hsave.refused_withEvents, fun _ _ hnone => absurd hnone (by simp)⟩
  | goesOn _ hannounced _ hran hsave _ ih =>
    have hstepped := runStep_inStep hconfirm hminds (inStep_of_named hin hannounced) hran
    obtain ⟨hsaved, -, -⟩ := hsave.inStep hstepped
    obtain ⟨hend, hagrees⟩ := ih hsaved
    exact ⟨hend, fun heach _ hnone =>
      hagrees heach (hsaved.agrees_of_clean (clean_of_savedAfterStep heach hsave)) hnone⟩

/-! ## Whole runs -/

/-- To restore the setting leaves the file alone. -/
theorem restore_leavesFile (slot : Slot) (s : Session) : LeavesFile n p s (restore slot s).2 := by
  cases hrestore : slot.restore s.app.settings with
  | error e => exact (restore_error hrestore).leavesFile
  | ok settings =>
    have hset : LeavesFile n p s { s with app := { s.app with settings } } := ⟨rfl, rfl, id⟩
    exact IsTrans.trans _ _ _ hset (restore_ok hrestore).leavesFile

/-- What a run does after its formatters keeps the file in step.  If it was to save at some time,
the file has the text of the document, unless the run failed. -/
theorem fromRestore_inStep {stepping : Stepping} (hin : s.InStep course.document p original)
    (heach : course.options.saveAfterEach = true → stepping.failure = none →
      s.Agrees course.document p) :
    let ended := fromRestore course original stepping s
    ended.2.InStep course.document p original ∧
      (ended.1.failure = none →
        course.options.saveAfterEach = true ∨ course.options.saveAfterChain = true →
          ended.2.Agrees course.document p) ∧
      (ended.1.edit = .noChanges → (ended.2.document course.document).text = original) := by
  intro ended
  obtain ⟨cause, saved, hsave, hsaid, hreport⟩ := fromRestore_cases course original stepping s
  have hleaves : LeavesFile course.document p s (restore stepping.slot s).2 :=
    restore_leavesFile stepping.slot s
  have hrestored := hin.leavesFile hleaves
  have hsaved : saved.InStep course.document p original := by
    cases cause with
    | some cause => exact hrestored.withEvents hsave.refused_withEvents
    | none => exact (hsave.inStep hrestored).1
  refine ⟨hsaved.withEvents hsaid, fun hnone hsaves => ?_, fun hedit => ?_⟩
  · change ended.1 = _ at hreport
    rw [hreport] at hnone
    cases cause with
    | some cause => exact absurd hnone (by simp)
    | none =>
      have hsavedAgrees : saved.Agrees course.document p := by
        obtain ⟨-, -, hclean | ⟨hunwanted, rfl⟩⟩ := hsave.inStep hrestored
        · exact hsaved.agrees_of_clean hclean
        · cases hoption : course.options.saveAfterEach with
          | true => exact hleaves.agrees_iff.2 (heach hoption hnone)
          | false =>
            have hchain : course.options.saveAfterChain = true := by simpa [hoption] using hsaves
            refine hsaved.agrees_of_clean ?_
            simpa [SavesAfterChain, hoption, hchain, show stepping.failure = none from hnone]
              using hunwanted
      exact hsavedAgrees.withEvents hsaid
  · change ended.1 = _ at hreport
    rw [hreport] at hedit
    rw [hsaid.document]
    by_cases htext : (saved.document course.document).text = original
    · exact htext
    · simp [htext] at hedit

/-- **A run keeps the file in step.** -/
theorem run_inStep (chain : Chain) (options : RunOptions) (hminds : host.MindsFile n p)
    (hin : s.InStep n p (s.document n).text) (hagrees : s.Agrees n p) :
    let ran := host.run n chain options s
    ran.2.InStep n p (s.document n).text ∧
      (ran.1.failure = none → options.saveAfterEach = true ∨ options.saveAfterChain = true →
        ran.2.Agrees n p) ∧
      (∀ reason, ran.1.edit = .skipped reason → ran.2.Agrees n p) ∧
      (ran.1.edit = .noChanges → (ran.2.document n).text = (s.document n).text) := by
  intro ran
  have hran : Ran host host.poll n chain options s ran.1 ran.2 := runWith_ran _ _ _ _ _ _
  generalize ran.1 = report at hran ⊢
  generalize ran.2 = s' at hran ⊢
  -- A run that is skipped leaves both the file and the document.
  have hkept {said : Session} (hsaid : WithEvents (held s) said) :
      (released said).InStep n p (s.document n).text ∧ (released said).Agrees n p ∧
        ((released said).document n).text = (s.document n).text :=
    ⟨((hin.withApp _).withEvents hsaid).withApp _,
      (Session.Agrees.withEvents (hagrees.withApp _) hsaid).withApp _,
      congrArg Document.text (hsaid.document n)⟩
  cases hran with
  | alreadyRunning _ hsaid =>
    exact ⟨hin.withEvents hsaid, fun _ _ => hagrees.withEvents hsaid,
      fun _ _ => hagrees.withEvents hsaid, fun _ => congrArg Document.text (hsaid.document n)⟩
  | notDirty _ _ hsaid =>
    obtain ⟨hend, hagreesEnd, htext⟩ := hkept hsaid
    exact ⟨hend, fun _ _ => hagreesEnd, fun _ _ => hagreesEnd, fun _ => htext⟩
  | emptyChain _ _ _ hsaid =>
    obtain ⟨hend, hagreesEnd, htext⟩ := hkept hsaid
    exact ⟨hend, fun _ _ => hagreesEnd, fun _ _ => hagreesEnd, fun _ => htext⟩
  | uncaptured _ _ _ _ hsaid =>
    obtain ⟨hend, hagreesEnd, htext⟩ := hkept hsaid
    exact ⟨hend, fun _ _ => hagreesEnd, fun _ _ => hagreesEnd, fun _ => htext⟩
  | @completed slot stepping stepped ended _ _ _ _ _ hstepped hended =>
    have hconfirm : (courseOf host.poll n chain options).confirm = host.poll := rfl
    obtain ⟨announced, hannounced, hsteps⟩ :=
      upToRestore_stepped host (courseOf host.poll n chain options) chain slot (held s)
    rw [hstepped] at hsteps
    have hagreesAnnounced := Session.Agrees.withEvents (hagrees.withApp _) hannounced
    obtain ⟨hinStepped, heach⟩ :=
      hsteps.inStep hconfirm hminds ((hin.withApp _).withEvents hannounced)
    obtain ⟨hend, hsaves, hedit⟩ := fromRestore_inStep hinStepped
      fun hoption hnone => heach hoption hagreesAnnounced hnone
    have hskipped := fromRestore_edit (courseOf host.poll n chain options) (s.document n).text
      stepping stepped
    rw [hended] at hend hsaves hedit hskipped
    exact ⟨hend.withApp _, fun hnone hoptions => (hsaves hnone hoptions).withApp _,
      fun reason hreason => absurd hreason (hskipped reason), hedit⟩

end Host

end FormatChain
