import FormatChain.Proofs.Run.Folding
import FormatChain.Proofs.Run.Reports

/-!
# Texts that pass through a run in memory

A document in memory carries a text through a run.  Its formatters are functions of the text, and
the person may want the run to stop at any time; the run may also be skipped, or end because a layer
of the settings must not be written.  However that goes, the text in the end is the fold of the
functions over the text at the start, for those formatters that had their steps.

* `Session.MayCancel` : only words are found, and the person may want to stop.
* `Session.Carries` : a document in memory carries a text.
* `Host.Stepped.passes` : running formatters folds those that had their steps.
* `Host.run_passes` : so does a run, whatever it comes to.
-/

namespace FormatChain

open Session (WithEvents)
open Settings (Scope)

namespace Session

variable {s s' : Session} {n : Nat} {p : Path} {language text : String}

/-- Events may happen, and the person may want to stop or to go on; nothing else changes. -/
def MayCancel (s s' : Session) : Prop :=
  ∃ events cancelled, s' = { s with history := events ++ s.history, cancelled }

instance : IsPreorder Session MayCancel where
  refl s := ⟨[], s.cancelled, rfl⟩
  trans := by
    rintro _ _ _ ⟨first, _, rfl⟩ ⟨second, cancelled, rfl⟩
    exact ⟨second ++ first, cancelled, by simp only [List.append_assoc]⟩

theorem WithEvents.mayCancel (h : WithEvents s s') : MayCancel s s' := by
  obtain ⟨events, rfl⟩ := h
  exact ⟨events, s.cancelled, rfl⟩

theorem MayCancel.app (h : MayCancel s s') : s'.app = s.app := by
  obtain ⟨_, _, rfl⟩ := h
  rfl

theorem MayCancel.document (h : MayCancel s s') (n : Nat) : s'.document n = s.document n := by
  obtain ⟨_, _, rfl⟩ := h
  rfl

/-- The document is one in memory, of the path and the language, and has the text. -/
structure Carries (s : Session) (n : Nat) (p : Path) (language text : String) : Prop where
  path : (s.document n).path = p
  language : (s.document n).language = language
  text : (s.document n).text = text
  inMemory : (s.document n).target = .memory

theorem Carries.of_document_eq (h : s.Carries n p language text)
    (hsame : s'.document n = s.document n) : s'.Carries n p language text := by
  refine ⟨?_, ?_, ?_, ?_⟩
  · rw [hsame, h.path]
  · rw [hsame, h.language]
  · rw [hsame, h.text]
  · rw [hsame, h.inMemory]

theorem Carries.setText (h : s.Carries n p language text) (made : String) :
    (s.putDocument n ((s.document n).setText made)).Carries n p language made := by
  have hmade := document_putDocument_self s n ((s.document n).setText made)
  refine ⟨?_, ?_, ?_, ?_⟩
  · rw [hmade, Document.path_setText, h.path]
  · rw [hmade, Document.language_setText, h.language]
  · rw [hmade, Document.text_setText]
  · rw [hmade, Document.target_setText, h.inMemory]

theorem Carries.markSaved (h : s.Carries n p language text) :
    (s.putDocument n (s.document n).markSaved).Carries n p language text := by
  have hsaved := document_putDocument_self s n (s.document n).markSaved
  refine ⟨?_, ?_, ?_, ?_⟩
  · rw [hsaved]
    exact h.path
  · rw [hsaved]
    exact h.language
  · rw [hsaved]
    exact h.text
  · rw [hsaved]
    exact h.inMemory

end Session

open Session (MayCancel)

namespace Host

variable {host : Host} {course : Course} {n : Nat} {p : Path} {language text : String}
  {g : String → TextFunction} {id : String} {s s' : Session}

/-! ## Saving -/

/-- A document in memory is saved without being refused. -/
theorem SavedIf.carries {wanted : Prop} {cause : Option Failure} (h : SavedIf n wanted s cause s')
    (hcarries : s.Carries n p language text) :
    cause = none ∧ s'.Carries n p language text ∧ s'.app = s.app := by
  cases h with
  | unwanted _ => exact ⟨rfl, hcarries, rfl⟩
  | saved _ hsave =>
    cases hsave with
    | remembered _ hsaid =>
      exact ⟨rfl, hcarries.markSaved.of_document_eq (hsaid.document n), hsaid.app⟩
    | written hdisk _ _ => exact absurd (hcarries.inMemory.symm.trans hdisk) (by simp)
  | refused _ hsave _ =>
    cases hsave with
    | refused hdisk _ _ => exact absurd (hcarries.inMemory.symm.trans hdisk) (by simp)

/-! ## Single formatters -/

theorem takeOutput_passes {made : Option String} {result : Except Failure Unit}
    (hcarries : s.Carries n p language text)
    (htake : (takeOutput n (.ofText? made)).run s = (result, s')) :
    s'.Carries n p language (textAfter text (.ok made)) ∧ s'.app = s.app := by
  cases made with
  | none =>
    obtain ⟨-, rfl⟩ := Prod.mk.inj (run_takeOutput_unchanged.symm.trans htake)
    exact ⟨hcarries, rfl⟩
  | some made =>
    obtain ⟨-, rfl⟩ := Prod.mk.inj ((run_takeOutput_text made).symm.trans htake)
    exact ⟨hcarries.setText made, rfl⟩

/-- **Formatting a document in memory is one step of the fold,** also where the formatter is missing
or fails. -/
theorem Formatted.passes {result : Except Failure Unit} (h : host.Formatted n s result s')
    (hcomputes : host.Computes g) (hcarries : s.Carries n p language text)
    (hactive : activeFormatter s.app.settings language = .ok id) :
    s'.Carries n p language (textAfter text (host.outcome g id ⟨p, language, text⟩)) ∧
      s'.app = s.app := by
  have hrequest : requestFor (s.document n) = ⟨p, language, text⟩ := by
    rw [requestFor, hcarries.path, hcarries.language, hcarries.text]
  rw [← hcarries.language] at hactive
  rw [← hrequest]
  rcases h.computed hcomputes hactive with
    ⟨e, houtcome, -, hsaid⟩ | ⟨made, asked, taken, houtcome, -, hasked, htake, htold⟩
  · rw [houtcome]
    exact ⟨hcarries.of_document_eq (hsaid.document n), hsaid.app⟩
  · obtain ⟨htaken, happ⟩ := takeOutput_passes (hcarries.of_document_eq (hasked.document n)) htake
    rw [houtcome]
    exact ⟨htaken.of_document_eq (htold.document n), htold.app.trans (happ.trans hasked.app)⟩

/-- A formatter that was named has its step as one step of the fold. -/
theorem named_passes (hcomputes : host.Computes g) (hidles : host.Idles MayCancel)
    (hconfirm : course.confirm = host.poll) {slot slot' : Slot} {index : Nat}
    {fingerprint after : Fingerprint} {settings : Settings} {step : StepReport}
    {announced stepped : Session} (hcarries : s.Carries course.document p language text)
    (hscope : s.app.settings.narrowestScope? = some slot.scope)
    (hlanguage : slot.language = language)
    (hid : isReservedId id = false) (hannounced : WithEvents s announced)
    (hactivate : slot.activate id s.app.settings = .ok (slot', settings))
    (hran : host.runStep course slot' index id fingerprint
      { announced with app := { announced.app with settings } } = ((step, after), stepped)) :
    step.formatter = id ∧
      stepped.Carries course.document p language
        (textAfter text (host.outcome g id ⟨p, language, text⟩)) ∧
      stepped.app.settings.narrowestScope? = some slot.scope := by
  obtain ⟨asked, hasked, hconclude, hformatter, -⟩ := runStep_spec hidles hconfirm hran
  have hset := (Slot.activate_eq_ok_iff.1 hactivate).2
  rw [hlanguage] at hset
  have hnarrowest := (Settings.narrowestScope?_setRaw hset).trans hscope
  have hraw := Settings.raw?_setRaw hset slot.scope Settings.Key.defaultFormatter (some language)
  rw [if_pos ⟨rfl, rfl, rfl⟩] at hraw
  have happ : asked.app = { announced.app with settings } := hasked.app
  have hactive : activeFormatter asked.app.settings language = .ok id := by
    rw [happ]
    exact activeFormatter_of_named hnarrowest hraw hid
  have hdocument : asked.document course.document = s.document course.document :=
    (hasked.document _).trans (hannounced.document _)
  obtain ⟨hmade, hkept⟩ := (formatDocument_formatted host course.document asked).passes hcomputes
    (hcarries.of_document_eq hdocument) hactive
  refine ⟨hformatter, hmade.of_document_eq (hconclude.document _), ?_⟩
  rw [hconclude.app, hkept, happ]
  exact hnarrowest

/-! ## Whole runs -/

/-- **Running formatters folds those that had their steps,** wherever it ends. -/
theorem Stepped.passes (hcomputes : host.Computes g) (hidles : host.Idles MayCancel)
    (hconfirm : course.confirm = host.poll) {index : Nat} {ids : List String} {slot : Slot}
    {fingerprint : Fingerprint} {stepping : Stepping}
    (h : Stepped host course index ids slot fingerprint s stepping s')
    (hcarries : s.Carries course.document p language text)
    (hscope : s.app.settings.narrowestScope? = some slot.scope)
    (hlanguage : slot.language = language)
    (hids : ∀ id ∈ ids, isReservedId id = false) :
    s'.Carries course.document p language
      (host.foldText g p language (stepping.steps.map StepReport.formatter) text) := by
  induction h generalizing text with
  | done => exact hcarries
  | cancelled _ hsaid => exact hcarries.of_document_eq (hsaid.document _)
  | refused _ _ hsaid => exact hcarries.of_document_eq (hsaid.document _)
  | unsaved _ hannounced hactivate hran hsave =>
    obtain ⟨-, hstepped, -⟩ := named_passes hcomputes hidles hconfirm hcarries hscope hlanguage
      (hids _ List.mem_cons_self) hannounced hactivate hran
    exact absurd (hsave.carries hstepped).1 (by simp)
  | goesOn _ hannounced hactivate hran hsave _ ih =>
    obtain ⟨hid, hstepped, hnarrowest⟩ := named_passes hcomputes hidles hconfirm hcarries hscope
      hlanguage (hids _ List.mem_cons_self) hannounced hactivate hran
    obtain ⟨rfl, -⟩ := Slot.activate_eq_ok_iff.1 hactivate
    obtain ⟨-, hsaved, happ⟩ := hsave.carries hstepped
    rw [List.map_cons, hid]
    exact ih hsaved (happ ▸ hnarrowest) hlanguage
      fun id hmem => hids id (List.mem_cons_of_mem _ hmem)

theorem restore_document (slot : Slot) (n : Nat) (s : Session) :
    (restore slot s).2.document n = s.document n := by
  cases hrestore : slot.restore s.app.settings with
  | error e => exact (restore_error hrestore).document n
  | ok settings => exact (restore_ok hrestore).document n

theorem fromRestore_passes (original : String) (stepping : Stepping)
    (hcarries : s.Carries course.document p language text) :
    (fromRestore course original stepping s).2.Carries course.document p language text := by
  obtain ⟨cause, saved, hsave, hsaid, -⟩ := fromRestore_cases course original stepping s
  obtain ⟨-, hsaved, -⟩ := hsave.carries (hcarries.of_document_eq (restore_document _ _ s))
  exact hsaved.of_document_eq (hsaid.document _)

/-- **A run in memory passes the text through those formatters that had their steps,** the first
ones of the chain. -/
theorem run_passes (hcomputes : host.Computes g) (hidles : host.Idles MayCancel) (chain : Chain)
    (options : RunOptions) (hcarries : s.Carries n p language text) :
    let ran := host.run n chain options s
    ran.1.ids <+: chain.ids ∧
      ran.2.Carries n p language (host.foldText g p language ran.1.ids text) := by
  intro ran
  have hran : Ran host host.poll n chain options s ran.1 ran.2 := runWith_ran _ _ _ _ _ _
  generalize ran.1 = report at hran ⊢
  generalize ran.2 = ended at hran ⊢
  cases hran with
  | alreadyRunning _ hsaid =>
    exact ⟨List.nil_prefix, hcarries.of_document_eq (hsaid.document n)⟩
  | notDirty _ _ hsaid => exact ⟨List.nil_prefix, hcarries.of_document_eq (hsaid.document n)⟩
  | emptyChain _ _ _ hsaid => exact ⟨List.nil_prefix, hcarries.of_document_eq (hsaid.document n)⟩
  | uncaptured _ _ _ _ hsaid => exact ⟨List.nil_prefix, hcarries.of_document_eq (hsaid.document n)⟩
  | @completed slot stepping stepped ended _ hfree hdirty hchain hacquire hstepped hended =>
    obtain ⟨scope, hscope, rfl⟩ := Slot.acquire_eq_ok_iff.1 hacquire
    obtain ⟨announced, hannounced, hsteps⟩ := upToRestore_stepped host
      (courseOf host.poll n chain options) chain (.at s.app.settings scope (s.document n).language)
      (held s)
    rw [hstepped] at hsteps
    have hbegun : announced.Carries n p language text :=
      hcarries.of_document_eq (hannounced.document n)
    have hnarrowest : announced.app.settings.narrowestScope? = some scope := by
      rw [hannounced.app]
      exact hscope
    have hpassed := hsteps.passes hcomputes hidles rfl hbegun hnarrowest hcarries.language
      chain.unreserved
    have hpassed' := fromRestore_passes (s.document n).text stepping hpassed
    obtain ⟨cause, saved, -, -, hreport⟩ :=
      fromRestore_cases (courseOf host.poll n chain options) (s.document n).text stepping stepped
    rw [hended] at hpassed' hreport
    obtain rfl := hreport
    exact ⟨hsteps.ends.begins, hpassed'.of_document_eq rfl⟩

end Host

end FormatChain
