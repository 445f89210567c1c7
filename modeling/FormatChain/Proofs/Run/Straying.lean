import FormatChain.Proofs.Run.Agreement
import FormatChain.Proofs.Run.Asking

/-!
# Formatters that fail after they rewrote the file

A run that saves after each formatter is to keep the text of the document in the file, where a
formatter on disk finds it.  But a formatter on disk may rewrite the file and fail, and the document
does not follow it then.  If the document was dirty, the save after the step writes the file over.
If it was clean there is no such save, and the file is left with a text that nobody knows of.

* `Formatter.MayRewrite`, `Host.MayRewrite` : who may rewrite the file of a document, and fail.
* `Host.Strays` : a formatter on disk rewrites the file of a clean document, and fails.
* `Host.formatDocument_agrees_iff`, `Host.agrees_after_save` : what a formatter and the save after
  it make of the file.
* `Host.Told.agrees_iff`, `Host.run_agrees_iff` : the file has the text of the document all the time
  if and only if no formatter strays.
* `Host.warnAboutUnsaved_silent_iff` : when the editor does not warn of unsaved changes.
-/

namespace FormatChain

open FormatChain.Session (LeavesFile WithEvents)

/-- The document is as it was saved, or was never saved. -/
def Document.IsSettled (d : Document) : Prop := d.isDirty = false ∨ d.saved = none

namespace Session

variable {s s' : Session} {n : Nat} {p : Path}

/-- The document of a number is about the file under a path, and there is one. -/
structure Edits (s : Session) (n : Nat) (p : Path) : Prop where
  path : (s.document n).path = p
  target : (s.document n).target = .disk
  isFile : s.IsFile p

theorem Edits.leavesFile (h : s.Edits n p) (hleaves : LeavesFile n p s s') : s'.Edits n p := by
  obtain ⟨hholds, text, hread⟩ := h.isFile
  refine ⟨?_, ?_, hleaves.holdsTexts hholds, text, ?_⟩
  · rw [hleaves.document, h.path]
  · rw [hleaves.document, h.target]
  · rw [hleaves.read, hread]

theorem Edits.withApp (h : s.Edits n p) (app : App) : { s with app }.Edits n p :=
  ⟨h.path, h.target, h.isFile⟩

/-- The document goes on to be about the file when it changes, as long as it keeps its path. -/
theorem Edits.putDocument {d : Document} (h : s.Edits n p) (hpath : d.path = (s.document n).path)
    (htarget : d.target = (s.document n).target) : (s.putDocument n d).Edits n p := by
  refine ⟨?_, ?_, h.isFile⟩
  · rw [document_putDocument_self, hpath, h.path]
  · rw [document_putDocument_self, htarget, h.target]

end Session

/-- The formatter leaves the document of a number and the file under a path alone, except that it
may put any text into the file if it works on disk, whether it succeeds or fails. -/
structure Formatter.MayRewrite (f : Formatter) (n : Nat) (p : Path) : Prop where
  offDisk : f.onDisk = false → ∀ request s result s', (f.format request).run s = (result, s') →
    result ≠ .ok .fileUpdated ∧ LeavesFile n p s s'
  onDisk : f.onDisk = true → ∀ request s result s', (f.format request).run s = (result, s') →
    (∀ output, result = .ok output → output = .fileUpdated) ∧ s'.document n = s.document n ∧
      (s.IsFile p → s'.IsFile p)

/-- A formatter leaves the document to the editor. -/
theorem Formatter.MayRewrite.edits {f : Formatter} {n : Nat} {p : Path} (h : f.MayRewrite n p)
    {request : FormatRequest} {result : Except Failure FormatOutput} {s s' : Session}
    (hformat : (f.format request).run s = (result, s')) :
    s'.document n = s.document n ∧ (s.Edits n p → s'.Edits n p) := by
  cases hdisk : f.onDisk with
  | false =>
    obtain ⟨-, hleaves⟩ := h.offDisk hdisk _ _ _ _ hformat
    exact ⟨hleaves.document, fun hedits => hedits.leavesFile hleaves⟩
  | true =>
    obtain ⟨-, hdocument, hfile⟩ := h.onDisk hdisk _ _ _ _ hformat
    refine ⟨hdocument, fun hedits => ⟨?_, ?_, hfile hedits.isFile⟩⟩
    · rw [hdocument, hedits.path]
    · rw [hdocument, hedits.target]

namespace Host

variable {host : Host} {course : Course} {n : Nat} {p : Path} {s s' : Session}

/-- Nobody rewrites the file of a document, and nobody but the editor changes the document, except
for its formatters on disk, which may rewrite the file and fail. -/
structure MayRewrite (host : Host) (n : Nat) (p : Path) : Prop where
  idles : host.Idles (LeavesFile n p)
  formatters : ∀ id f, host.formatters.get? id = some f → f.MayRewrite n p

theorem MayRewrite.chosen (h : host.MayRewrite n p) {settings : Settings} {language : String}
    {formatter : Formatter} (hchoose : host.chooseFormatter settings language = .ok formatter) :
    formatter.MayRewrite n p := by
  obtain ⟨id, -, hid⟩ := chooseFormatter_eq_ok_iff.1 hchoose
  exact h.formatters id formatter hid

/-- A formatter that was chosen leaves the document to the editor. -/
theorem MayRewrite.edits (h : host.MayRewrite n p) {settings : Settings} {language : String}
    {formatter : Formatter} {request : FormatRequest} {result : Except Failure FormatOutput}
    {asked made : Session} (hchoose : host.chooseFormatter settings language = .ok formatter)
    (hasked : WithEvents s asked)
    (hformat : (formatter.format request).run asked = (result, made)) :
    made.document n = s.document n ∧ (s.Edits n p → made.Edits n p) := by
  obtain ⟨hdocument, hkeeps⟩ := (h.chosen hchoose).edits hformat
  exact ⟨hdocument.trans (hasked.document n),
    fun hedits => hkeeps (hedits.leavesFile hasked.leavesFile)⟩

/-! ## Single formatters -/

/-- Where there is a file, the document takes over what was made of it. -/
theorem edits_of_takeOutput {output : FormatOutput} {result : Except Failure Unit}
    (hedits : s.Edits n p) (htake : (takeOutput n output).run s = (result, s')) :
    result = .ok () ∧ s'.Edits n p := by
  cases output with
  | unchanged =>
    obtain ⟨rfl, rfl⟩ := Prod.mk.inj (run_takeOutput_unchanged.symm.trans htake)
    exact ⟨rfl, hedits⟩
  | text text =>
    obtain ⟨rfl, rfl⟩ := Prod.mk.inj ((run_takeOutput_text text).symm.trans htake)
    exact ⟨rfl, hedits.putDocument (Document.path_setText _ _) (Document.target_setText _ _)⟩
  | fileUpdated =>
    obtain ⟨-, text, hread⟩ := hedits.isFile
    obtain ⟨said, hsaid, hrun⟩ :=
      run_takeOutput_reloaded (n := n) (by rw [hedits.path]; exact hread)
    obtain ⟨rfl, rfl⟩ := Prod.mk.inj (hrun.symm.trans htake)
    exact ⟨rfl, (hedits.leavesFile hsaid.leavesFile).putDocument (Document.path_setText _ _)
      (Document.target_setText _ _)⟩

/-- A document that takes over a text and is clean after it has the text of the file: either it read
the file, or the text is the one that was saved. -/
theorem agrees_of_takeOutput {output : FormatOutput} (hedits : s.Edits n p)
    (hsettled : (s.document n).IsSettled) (hagrees : output ≠ .fileUpdated → s.Agrees n p)
    (htake : (takeOutput n output).run s = (.ok (), s'))
    (hclean : (s'.document n).isDirty = false) : s'.Agrees n p := by
  cases output with
  | unchanged =>
    obtain ⟨-, rfl⟩ := Prod.mk.inj (run_takeOutput_unchanged.symm.trans htake)
    exact hagrees (by simp)
  | text text =>
    obtain ⟨-, rfl⟩ := Prod.mk.inj ((run_takeOutput_text text).symm.trans htake)
    rw [Session.document_putDocument_self] at hclean
    have hsaved := Document.saved_of_clean hclean
    rw [Document.saved_setText, Document.text_setText] at hsaved
    rcases hsettled with hbefore | hnever
    · have hsame : (s.document n).text = text :=
        Option.some.inj ((Document.saved_of_clean hbefore).symm.trans hsaved)
      rw [Session.Agrees, Session.document_putDocument_self, Document.text_setText, ← hsame]
      exact hagrees (by simp)
    · exact absurd (hnever.symm.trans hsaved) (by simp)
  | fileUpdated =>
    obtain ⟨-, text, hread⟩ := hedits.isFile
    obtain ⟨said, hsaid, hrun⟩ :=
      run_takeOutput_reloaded (n := n) (by rw [hedits.path]; exact hread)
    obtain ⟨-, rfl⟩ := Prod.mk.inj (hrun.symm.trans htake)
    rw [Session.Agrees, Session.document_putDocument_self]
    change said.read p = .ok ((said.document n).setText text).text
    rw [hsaid.read, hread, Document.text_setText]

theorem Formatted.edits {result : Except Failure Unit} (h : host.Formatted n s result s')
    (hmay : host.MayRewrite n p) (hedits : s.Edits n p) : s'.Edits n p := by
  cases h with
  | unchosen _ => exact hedits
  | failed hchoose hasked hformat => exact (hmay.edits hchoose hasked hformat).2 hedits
  | untaken hchoose hasked hformat htake =>
    exact (edits_of_takeOutput ((hmay.edits hchoose hasked hformat).2 hedits) htake).2
  | taken hchoose hasked hformat htake hsaid =>
    have htaken := (edits_of_takeOutput ((hmay.edits hchoose hasked hformat).2 hedits) htake).2
    exact htaken.leavesFile hsaid.leavesFile

/-- A formatter that fails leaves the document as it is. -/
theorem Formatted.document_of_error {e : Failure} (h : host.Formatted n s (.error e) s')
    (hmay : host.MayRewrite n p) : s'.document n = s.document n := by
  cases h with
  | unchosen _ => rfl
  | failed hchoose hasked hformat => exact (hmay.edits hchoose hasked hformat).1
  | @untaken formatter output asked made _ _ hchoose hasked hformat htake =>
    cases output with
    | unchanged => exact absurd (Prod.mk.inj htake).1 (by simp)
    | text text => exact absurd (Prod.mk.inj htake).1 (by simp)
    | fileUpdated =>
      cases hread : made.read (made.document n).path with
      | ok text =>
        obtain ⟨said, -, hrun⟩ := run_takeOutput_reloaded hread
        exact absurd (Prod.mk.inj (hrun.symm.trans htake)).1 (by simp)
      | error cause =>
        obtain ⟨said, hsaid, hrun⟩ := run_takeOutput_unread hread
        obtain rfl := (Prod.mk.inj (hrun.symm.trans htake)).2
        exact (hsaid.document n).trans (hmay.edits hchoose hasked hformat).1

/-- After a formatter that fails and does not work on disk, the file has the text of the document
if it had it before. -/
theorem Formatted.agrees_of_error {e : Failure} (h : host.Formatted n s (.error e) s')
    (hmay : host.MayRewrite n p) (hedits : s.Edits n p) (hagrees : s.Agrees n p)
    (hdisk : ∀ formatter, host.chooseFormatter s.app.settings (s.document n).language =
      .ok formatter → formatter.onDisk = false) : s'.Agrees n p := by
  cases h with
  | unchosen _ => exact hagrees
  | failed hchoose hasked hformat =>
    obtain ⟨-, hleaves⟩ := (hmay.chosen hchoose).offDisk (hdisk _ hchoose) _ _ _ _ hformat
    exact hleaves.agrees_iff.2 (hagrees.withEvents hasked)
  | untaken hchoose hasked hformat htake =>
    have hmade := (hmay.edits hchoose hasked hformat).2 hedits
    exact absurd (edits_of_takeOutput hmade htake).1 (by simp)

/-- After a formatter that succeeds, the file of a clean document has its text. -/
theorem Formatted.agrees_of_ok (h : host.Formatted n s (.ok ()) s') (hmay : host.MayRewrite n p)
    (hedits : s.Edits n p) (hsettled : (s.document n).IsSettled) (hagrees : s.Agrees n p)
    (hclean : (s'.document n).isDirty = false) : s'.Agrees n p := by
  cases h with
  | @taken formatter output asked made taken _ hchoose hasked hformat htake hsaid =>
    have hformatter := hmay.chosen hchoose
    obtain ⟨hdocument, hkeeps⟩ := hmay.edits hchoose hasked hformat
    refine (agrees_of_takeOutput (hkeeps hedits) ?_ (fun houtput => ?_) htake ?_).withEvents hsaid
    · rw [hdocument]
      exact hsettled
    · cases hdisk : formatter.onDisk with
      | false =>
        obtain ⟨-, hleaves⟩ := hformatter.offDisk hdisk _ _ _ _ hformat
        exact hleaves.agrees_iff.2 (hagrees.withEvents hasked)
      | true => exact absurd ((hformatter.onDisk hdisk _ _ _ _ hformat).1 _ rfl) houtput
    · rw [← hsaid.document]
      exact hclean

/-! ## Straying -/

/-- The editor is asked to format a clean document, and takes a formatter on disk that fails, but
leaves another text in the file than the document's. -/
structure Strays (host : Host) (n : Nat) (s : Session) : Prop where
  clean : (s.document n).isDirty = false
  onDisk : ∃ formatter, host.chooseFormatter s.app.settings (s.document n).language =
    .ok formatter ∧ formatter.onDisk = true
  failed : ∃ e, ((host.formatDocument n).run s).1 = .error e
  rewritten : ((host.formatDocument n).run s).2.read (s.document n).path ≠
    .ok (s.document n).text

/-- **After a formatter the file of a clean document has its text, unless the formatter strayed.**
After one that strayed the document is clean. -/
theorem formatDocument_agrees_iff (hmay : host.MayRewrite n p) (hedits : s.Edits n p)
    (hsettled : (s.document n).IsSettled) (hagrees : s.Agrees n p) :
    let formatted := ((host.formatDocument n).run s).2
    (host.Strays n s → (formatted.document n).isDirty = false) ∧
      ((formatted.document n).isDirty = false → (formatted.Agrees n p ↔ ¬ host.Strays n s)) := by
  intro formatted
  have hformatted := formatDocument_formatted host n s
  change host.Formatted n s _ formatted at hformatted
  cases hresult : ((host.formatDocument n).run s).1 with
  | ok u =>
    have hstrays : ¬ host.Strays n s := by
      rintro ⟨-, -, ⟨e, he⟩, -⟩
      exact absurd (hresult.symm.trans he) (by simp)
    rw [hresult] at hformatted
    refine ⟨fun h => absurd h hstrays, fun hclean => ?_⟩
    exact iff_of_true (hformatted.agrees_of_ok hmay hedits hsettled hagrees hclean) hstrays
  | error e =>
    rw [hresult] at hformatted
    have hdocument := hformatted.document_of_error hmay
    rw [hdocument]
    refine ⟨fun h => h.clean, fun hclean => ⟨fun hkept hstrays => ?_, fun hnot => ?_⟩⟩
    · rw [Session.Agrees, hdocument] at hkept
      exact hstrays.rewritten (hedits.path.symm ▸ hkept)
    · by_cases hkept : formatted.Agrees n p
      · exact hkept
      · refine absurd ⟨hclean, ?_, ⟨e, hresult⟩, fun hread => hkept ?_⟩ hnot
        · by_cases hdisk : ∃ formatter, host.chooseFormatter s.app.settings
              (s.document n).language = .ok formatter ∧ formatter.onDisk = true
          · exact hdisk
          · refine absurd (hformatted.agrees_of_error hmay hedits hagrees fun f hchoose => ?_) hkept
            exact eq_false_of_ne_true fun h => hdisk ⟨f, hchoose, h⟩
        · rw [Session.Agrees, hdocument, ← hedits.path]
          exact hread

/-! ## Steps and saves -/

/-- A step keeps the document about its file. -/
theorem askStep_edits (hmay : host.MayRewrite course.document p)
    (hconfirm : course.confirm = host.poll) (slot : Slot) (index : Nat) (id : String)
    (fingerprint : Fingerprint) (hedits : s.Edits course.document p) :
    let told := host.askStep course slot index id fingerprint s
    told.1.1.asked.Edits course.document p ∧ told.2.Edits course.document p := by
  obtain ⟨hasked, hended, -⟩ :=
    askStep_around hmay.idles hconfirm slot index id fingerprint s
  have haskedEdits := hedits.leavesFile hasked
  exact ⟨haskedEdits,
    ((formatDocument_formatted host course.document _).edits hmay haskedEdits).leavesFile hended⟩

/-- If the file had the text of the document before a step, it still has it when the editor is
asked, and a document that is clean after the step agrees with its file unless the formatter
strayed. -/
theorem askStep_agrees_iff (hmay : host.MayRewrite course.document p)
    (hconfirm : course.confirm = host.poll) (slot : Slot) (index : Nat) (id : String)
    (fingerprint : Fingerprint) (hedits : s.Edits course.document p)
    (hsettled : (s.document course.document).IsSettled) (hagrees : s.Agrees course.document p) :
    let told := host.askStep course slot index id fingerprint s
    told.1.1.asked.Agrees course.document p ∧
      (host.Strays course.document told.1.1.asked →
        (told.2.document course.document).isDirty = false) ∧
      ((told.2.document course.document).isDirty = false →
        (told.2.Agrees course.document p ↔ ¬ host.Strays course.document told.1.1.asked)) := by
  obtain ⟨hasked, hended, -⟩ :=
    askStep_around hmay.idles hconfirm slot index id fingerprint s
  have hstill := hasked.agrees_iff.2 hagrees
  intro told
  rw [hended.document, hended.agrees_iff]
  refine ⟨hstill, formatDocument_agrees_iff hmay (hedits.leavesFile hasked) ?_ hstill⟩
  rw [hasked.document]
  exact hsettled

/-- A document that is saved, if it is to be saved, stays about its file. -/
theorem SavedIf.edits {wanted : Prop} (h : SavedIf n wanted s none s') (hedits : s.Edits n p) :
    s'.Edits n p := by
  cases h with
  | unwanted _ => exact hedits
  | saved _ hsaved =>
    obtain ⟨hdocument, hholds, hread⟩ := hsaved.read hedits.path hedits.target hedits.isFile.1
    refine ⟨?_, ?_, hholds, _, hread⟩
    · rw [hdocument]
      exact hedits.path
    · rw [hdocument]
      exact hedits.target

/-- **After the save that follows a step the document is clean, and agrees with its file** if there
was something to save, or nothing to save and it agreed before. -/
theorem agrees_after_save (heach : course.options.saveAfterEach = true)
    (hedits : s.Edits course.document p)
    (hsave : SavedIf course.document (SavesAfterStep course s) s none s') :
    (s'.document course.document).isDirty = false ∧
      (s'.Agrees course.document p ↔ ((s.document course.document).isDirty = false →
        s.Agrees course.document p)) := by
  have hclean := clean_of_savedAfterStep heach hsave
  refine ⟨hclean, ?_⟩
  cases hsave with
  | unwanted _ => exact ⟨fun hagrees _ => hagrees, fun h => h hclean⟩
  | saved hwanted hsaved =>
    obtain ⟨hdocument, -, hread⟩ := hsaved.read hedits.path hedits.target hedits.isFile.1
    have hagrees : s'.Agrees course.document p := by
      rw [Session.Agrees, hdocument]
      exact hread
    exact iff_of_true hagrees fun hnow => absurd (hwanted.2.symm.trans hnow) (by simp)

/-! ## All formatters -/

/-- A run did not end early because a save was refused, but at most because a formatter could not be
named. -/
def NoSaveRefused (failure : Option RunFailure) : Prop :=
  ∀ f, failure = some f → ∃ e, f.cause = .settingRefused e

theorem not_noSaveRefused {wanted : Prop} {cause : Failure} {id : Option String}
    (hsave : SavedIf n wanted s (some cause) s') : ¬ NoSaveRefused (some ⟨id, cause⟩) := by
  intro hnone
  obtain ⟨e, he⟩ := hnone _ rfl
  cases hsave with
  | refused _ hrefused _ =>
    cases hrefused with
    | refused _ hwrite _ =>
      rw [show cause = .settingRefused e from he] at hwrite
      simpa using Session.write_eq_error hwrite

/-- Whenever a run names a formatter and asks the editor to format, the file has the text of the
document. -/
def AgreesThroughout (askings : List Asking) (n : Nat) (p : Path) : Prop :=
  ∀ asking ∈ askings, asking.named.Agrees n p ∧ asking.asked.Agrees n p

/-- If the file has the text of the document when a formatter is named, or at the end if none is, it
had it before. -/
theorem Told.agrees_start {index : Nat} {ids : List String} {slot : Slot}
    {fingerprint : Fingerprint} {told : Stepping × List Asking}
    (h : Told host course index ids slot fingerprint s told s')
    (hasked : AgreesThroughout told.2 course.document p) (hend : s'.Agrees course.document p) :
    s.Agrees course.document p := by
  have hnamed {announced : Session} {settings : Settings} {asking : Asking}
      (hannounced : WithEvents s announced)
      (hsame : asking.named = { announced with app := { announced.app with settings } })
      (hagrees : asking.named.Agrees course.document p) : s.Agrees course.document p := by
    rw [hsame] at hagrees
    exact hannounced.leavesFile.agrees_iff.1 (hagrees.withApp announced.app)
  cases h with
  | done => exact hend
  | cancelled _ hsaid => exact hsaid.leavesFile.agrees_iff.1 hend
  | refused _ _ hsaid => exact hsaid.leavesFile.agrees_iff.1 hend
  | unsaved _ hannounced _ hask _ =>
    exact hnamed hannounced (askStep_tells hask).2 (hasked _ List.mem_cons_self).1
  | goesOn _ hannounced _ hask _ _ =>
    exact hnamed hannounced (askStep_tells hask).2 (hasked _ List.mem_cons_self).1

/-- **While formatters run the file has the text of the document all the time if and only if none of
them strays.** -/
theorem Told.agrees_iff (hconfirm : course.confirm = host.poll)
    (heach : course.options.saveAfterEach = true) (hmay : host.MayRewrite course.document p)
    {index : Nat} {ids : List String} {slot : Slot} {fingerprint : Fingerprint}
    {told : Stepping × List Asking} (h : Told host course index ids slot fingerprint s told s')
    (hedits : s.Edits course.document p) (hsettled : (s.document course.document).IsSettled)
    (hsaves : NoSaveRefused told.1.failure) :
    s'.Edits course.document p ∧ (s.Agrees course.document p →
      (AgreesThroughout told.2 course.document p ∧ s'.Agrees course.document p ↔
        ∀ asking ∈ told.2, ¬ host.Strays course.document asking.asked)) := by
  induction h with
  | done => exact ⟨hedits, fun hagrees => by simpa [AgreesThroughout] using hagrees⟩
  | cancelled _ hsaid =>
    refine ⟨hedits.leavesFile hsaid.leavesFile, fun hagrees => ?_⟩
    simpa [AgreesThroughout] using hagrees.withEvents hsaid
  | refused _ _ hsaid =>
    refine ⟨hedits.leavesFile hsaid.leavesFile, fun hagrees => ?_⟩
    simpa [AgreesThroughout] using hagrees.withEvents hsaid
  | unsaved _ _ _ _ hsave => exact absurd hsaves (not_noSaveRefused hsave)
  | @goesOn index id _ _ slot' fingerprint _ settings asking _ announced _ saved _ others _
      hannounced _ hask hsave hrest ih =>
    have hnamedEdits :=
      (hedits.leavesFile hannounced.leavesFile).withApp { announced.app with settings }
    obtain ⟨-, hstepped⟩ := askStep_edits hmay hconfirm slot' index id fingerprint hnamedEdits
    rw [hask] at hstepped
    obtain ⟨hclean, hsaved⟩ := agrees_after_save heach hstepped hsave
    obtain ⟨hend, hrestAgrees⟩ := ih (hsave.edits hstepped) (.inl hclean) hsaves
    refine ⟨hend, fun hagrees => ?_⟩
    have hnamedAgrees := (hagrees.withEvents hannounced).withApp { announced.app with settings }
    obtain ⟨hasked, hstrays, hkept⟩ := askStep_agrees_iff hmay hconfirm slot' index id fingerprint
      hnamedEdits ((hannounced.document course.document).symm ▸ hsettled) hnamedAgrees
    rw [hask] at hasked hstrays hkept
    -- The next formatter finds the text of the document in the file unless this one strayed.
    have hnext : saved.Agrees course.document p ↔ ¬ host.Strays course.document asking.asked :=
      hsaved.trans ⟨fun h hstray => (hkept (hstrays hstray)).1 (h (hstrays hstray)) hstray,
        fun h hclean => (hkept hclean).2 h⟩
    rw [List.forall_mem_cons, ← hnext]
    constructor
    · rintro ⟨hall, hlast⟩
      have hothers := (List.forall_mem_cons.1 hall).2
      have hsavedAgrees := hrest.agrees_start hothers hlast
      exact ⟨hsavedAgrees, (hrestAgrees hsavedAgrees).1 ⟨hothers, hlast⟩⟩
    · rintro ⟨hsavedAgrees, hnone⟩
      obtain ⟨hothers, hlast⟩ := (hrestAgrees hsavedAgrees).2 hnone
      have hfirst := And.intro ((askStep_tells hask).2 ▸ hnamedAgrees) hasked
      exact ⟨List.forall_mem_cons.2 ⟨hfirst, hothers⟩, hlast⟩

/-! ## Whole runs -/

/-- What a run that saves after each formatter does after its formatters leaves the file alone. -/
theorem fromRestore_leavesFile (course : Course) (heach : course.options.saveAfterEach = true)
    (original : String) (stepping : Stepping) (s : Session) :
    let ended := fromRestore course original stepping s
    ended.1.failure = stepping.failure ∧ LeavesFile course.document p s ended.2 := by
  intro ended
  obtain ⟨cause, saved, hsave, hsaid, hreport⟩ := fromRestore_cases course original stepping s
  cases hsave with
  | saved hwanted _ => exact absurd (heach.symm.trans hwanted.1) (by simp)
  | refused hwanted _ _ => exact absurd (heach.symm.trans hwanted.1) (by simp)
  | unwanted _ =>
    exact ⟨congrArg RunReport.failure hreport,
      IsTrans.trans _ _ _ (restore_leavesFile stepping.slot s) hsaid.leavesFile⟩

/-- **In a run that saves after each formatter the file has the text of the document all the time if
and only if no formatter strays.** -/
theorem run_agrees_iff (chain : Chain) {options : RunOptions} (hmay : host.MayRewrite n p)
    (heach : options.saveAfterEach = true) (hedits : s.Edits n p)
    (hsettled : (s.document n).IsSettled) (hagrees : s.Agrees n p)
    (hsaves : NoSaveRefused (host.run n chain options s).1.failure) :
    let ran := host.run n chain options s
    let askings := host.askings n chain options s
    ran.2.Edits n p ∧ (AgreesThroughout askings n p ∧ ran.2.Agrees n p ↔
      ∀ asking ∈ askings, ¬ host.Strays n asking.asked) := by
  intro ran askings
  have hran : Ran host host.poll n chain options s ran.1 ran.2 := runWith_ran _ _ _ _ _ _
  change NoSaveRefused ran.1.failure at hsaves
  generalize ran.1 = report at hran hsaves
  generalize ran.2 = s' at hran ⊢
  -- Nobody is asked in a run that is skipped, and the file stays as it is.
  have hkept (hleaves : LeavesFile n p s s') (hnone : askings = []) : s'.Edits n p ∧
      (AgreesThroughout askings n p ∧ s'.Agrees n p ↔
        ∀ asking ∈ askings, ¬ host.Strays n asking.asked) := by
    refine ⟨hedits.leavesFile hleaves, ?_⟩
    simpa [hnone, AgreesThroughout] using hleaves.agrees_iff.2 hagrees
  have hleaves {said : Session} (hsaid : WithEvents (held s) said) :
      LeavesFile n p s (released said) :=
    ⟨hsaid.document n, hsaid.read p, fun hholds => hsaid.holdsTexts (s := held s) hholds⟩
  cases hran with
  | alreadyRunning hheld hsaid =>
    exact hkept hsaid.leavesFile (by simp [askings, Host.askings, hheld])
  | notDirty _ hclean hsaid => exact hkept (hleaves hsaid) (by simp [askings, Host.askings, hclean])
  | emptyChain _ _ hempty hsaid =>
    exact hkept (hleaves hsaid) (by simp [askings, Host.askings, Chain.isEmpty, hempty])
  | uncaptured _ _ _ hacquire hsaid =>
    exact hkept (hleaves hsaid) (by simp [askings, Host.askings, hacquire])
  | @completed slot stepping stepped ended _ hfree hdirty hchain hacquire hstepped hended =>
    obtain ⟨scope, hscope, rfl⟩ := Slot.acquire_eq_ok_iff.1 hacquire
    obtain ⟨announced, hannounced, htold⟩ := askings_told host options hfree hdirty hchain hscope
    rw [show host.upToRestoration n chain options scope s = (stepping, stepped) from hstepped]
      at htold
    have hannouncedEdits := (hedits.withApp (held s).app).leavesFile hannounced.leavesFile
    have hannouncedAgrees := Session.Agrees.withEvents (hagrees.withApp (held s).app) hannounced
    have hannouncedSettled : (announced.document n).IsSettled :=
      (hannounced.document n).symm ▸ hsettled
    obtain ⟨hfailure, hleft⟩ := fromRestore_leavesFile (p := p)
      (courseOf host.poll n chain options) heach (s.document n).text stepping stepped
    rw [hended] at hfailure hleft
    change report.failure = stepping.failure at hfailure
    rw [hfailure] at hsaves
    obtain ⟨hsteppedEdits, hiff⟩ :=
      htold.agrees_iff rfl heach hmay hannouncedEdits hannouncedSettled hsaves
    have hreleased : LeavesFile n p ended (released ended) := ⟨rfl, rfl, id⟩
    have hend : LeavesFile n p stepped (released ended) := IsTrans.trans _ _ _ hleft hreleased
    refine ⟨hsteppedEdits.leavesFile hend, ?_⟩
    rw [hend.agrees_iff]
    exact hiff hannouncedAgrees

theorem document_of_failed (hmay : host.MayRewrite n p)
    (hfailed : failure? ((host.formatDocument n).run s).1 ≠ none) :
    ((host.formatDocument n).run s).2.document n = s.document n := by
  have hformatted := formatDocument_formatted host n s
  cases hresult : ((host.formatDocument n).run s).1 with
  | ok u => exact absurd (congrArg failure? hresult) hfailed
  | error e =>
    rw [hresult] at hformatted
    exact hformatted.document_of_error hmay

/-- Whenever the editor is asked the document is about its file, and if the formatter fails the
document stays as it was when the formatter was named. -/
theorem run_asks_about_file (chain : Chain) (options : RunOptions) (hmay : host.MayRewrite n p)
    (hedits : s.Edits n p) :
    ∀ asking ∈ host.askings n chain options s, asking.asked.Edits n p ∧
      (asking.step.failure ≠ none →
        ((host.formatDocument n).run asking.asked).2.document n = asking.named.document n) := by
  rcases askings_cases host n chain options s with
    ⟨-, hnone⟩ | ⟨scope, announced, told, -, hannounced, htold, htells, -⟩
  · simp [hnone]
  · rw [htells]
    refine htold.forall chain.ids (I := fun _ s => s.Edits n p) ?_ ?_ (fun _ h => h) ?_
    · intro slot slot' s announced settings index id fingerprint _ hsaid _ hnow
      have hconfirm : (courseOf host.poll n chain options).confirm = host.poll := rfl
      have hnamedEdits :=
        (hnow.leavesFile hsaid.leavesFile).withApp { announced.app with settings }
      obtain ⟨hasked, -, hnamed, -, hfailure, -⟩ := askStep_around hmay.idles hconfirm slot' index
        id fingerprint { announced with app := { announced.app with settings } }
      obtain ⟨haskedEdits, hended⟩ :=
        askStep_edits hmay hconfirm slot' index id fingerprint hnamedEdits
      refine ⟨⟨haskedEdits, fun hfailed => ?_⟩, hended⟩
      rw [hnamed, ← hasked.document]
      rw [hfailure] at hfailed
      exact document_of_failed hmay hfailed
    · exact fun _ _ _ _ hnow hsaved => hsaved.edits hnow
    · exact (hedits.withApp (held s).app).leavesFile hannounced.leavesFile

/-! ## Unsaved changes -/

/-- Looks into the file of a document if a formatter works on disk. -/
def lookIntoFile (formatter : Formatter) (d : Document) : Action Unit := do
  if formatter.onDisk then
    let _ ← (Attempt.readText d.path).run

/-- **The editor does not warn of unsaved changes, but only looks into the file, if and only if the
file has the text of the document or the formatter does not work on disk.** -/
theorem warnAboutUnsaved_silent_iff (formatter : Formatter) (d : Document) (s : Session) :
    warnAboutUnsaved formatter d s = lookIntoFile formatter d s ↔
      (formatter.onDisk = true → s.read d.path = .ok d.text) := by
  cases hdisk : formatter.onDisk with
  | false => simp [warnAboutUnsaved, lookIntoFile, hdisk]
  | true =>
    obtain ⟨hread, -⟩ := Attempt.run_readText d.path s
    rcases hrun : (Attempt.readText d.path).run s with ⟨seen, said⟩
    rw [hrun] at hread
    obtain rfl : seen = s.read d.path := hread
    simp only [warnAboutUnsaved, lookIntoFile, hdisk, if_true, Action.bind_apply, hrun]
    -- A warning is one more entry of the history.
    have hwarns : ∀ text said, Action.warn text said ≠ ((), said) := by
      intro text said hsame
      have hhistory := congrArg (fun ran => ran.2.history) hsame
      exact List.cons_ne_self _ _ hhistory
    cases hfound : s.read d.path with
    | error e => simp [hwarns]
    | ok text =>
      by_cases htext : text = d.text
      · simp [htext]
      · simp [htext, hwarns]

/-- The editor does not warn of unsaved changes if the file has the text of the document. -/
theorem warnAboutUnsaved_of_agrees (hedits : s.Edits n p) (hagrees : s.Agrees n p)
    (formatter : Formatter) :
    warnAboutUnsaved formatter (s.document n) s = lookIntoFile formatter (s.document n) s := by
  refine (warnAboutUnsaved_silent_iff _ _ _).2 fun _ => ?_
  rw [hedits.path]
  exact hagrees

end Host

end FormatChain
