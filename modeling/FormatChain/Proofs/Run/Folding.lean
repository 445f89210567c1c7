import FormatChain.Proofs.Run.Agreement
import FormatChain.Proofs.Settings.Writing

/-!
# A run as a fold

Some formatters are but functions of what they are told, and leave everything else alone.  A run of
such formatters, of which nothing gets in the way, is a fold of these functions over the text.

* `Formatter.Computes` : a formatter is a function of what it is told.
* `Host.foldText`, `Host.foldSteps` : what a chain makes of a text, and what its steps come to.
* `Session.Ready` : nothing gets in the way of the next formatter.
* `Host.Stepped.folds` : running formatters is the fold.
-/

namespace FormatChain

open FormatChain.Json
open FormatChain.Settings (Scope)
open FormatChain.Session (WithEvents)

/-! ## Formatters that are functions -/

/-- What a formatter that is a function makes of what it is told: another text, or none if it leaves
it as it is, or a failure. -/
abbrev TextFunction := FormatRequest → Except Failure (Option String)

/-- The output that stands for another text or for none. -/
def FormatOutput.ofText? : Option String → FormatOutput
  | some made => .text made
  | none => .unchanged

theorem error_of_map {ε α β : Type} {f : α → β} {x : Except ε α} {e : ε}
    (h : .error e = x.map f) : x = .error e := by
  cases x with
  | error cause =>
    obtain rfl := Except.error.inj h
    rfl
  | ok a => cases h

theorem ok_of_map {ε α β : Type} {f : α → β} {x : Except ε α} {b : β} (h : .ok b = x.map f) :
    ∃ a, x = .ok a ∧ b = f a := by
  cases x with
  | error cause => cases h
  | ok a => exact ⟨a, rfl, Except.ok.inj h⟩

/-- The formatter computes the function, and does nothing but say something. -/
structure Formatter.Computes (f : Formatter) (g : TextFunction) : Prop where
  offDisk : f.onDisk = false
  result : ∀ request s, ((f.format request).run s).1 = (g request).map FormatOutput.ofText?
  onlySays : ∀ request, Attempt.Leads WithEvents (f.format request)

/-- The formatter that computes a function, and says nothing. -/
def Formatter.ofFunction (id : String) (g : TextFunction) : Formatter :=
  ⟨id, false, fun request => ExceptT.mk (pure ((g request).map FormatOutput.ofText?))⟩

theorem Formatter.ofFunction_computes (id : String) (g : TextFunction) :
    (ofFunction id g).Computes g :=
  ⟨rfl, fun _ _ => rfl, fun _ _ => refl _⟩

theorem Formatter.Computes.ne_fileUpdated {f : Formatter} {g : TextFunction}
    (h : f.Computes g) {request : FormatRequest} {s s' : Session} {output : FormatOutput}
    (hformat : (f.format request).run s = (.ok output, s')) : output ≠ .fileUpdated := by
  have hresult := h.result request s
  rw [hformat] at hresult
  obtain ⟨made, -, rfl⟩ := ok_of_map hresult
  cases made with
  | none => exact FormatOutput.noConfusion
  | some made => exact FormatOutput.noConfusion

/-- A formatter that computes leaves the file of a document to the editor. -/
theorem Formatter.Computes.mindsFile {f : Formatter} {g : TextFunction} (h : f.Computes g) (n : Nat)
    (p : Path) : f.MindsFile n p := by
  have hleaves {request : FormatRequest} {s s' : Session} {result : Except Failure FormatOutput}
      (hformat : (f.format request).run s = (result, s')) : Session.LeavesFile n p s s' := by
    have hsaid := h.onlySays request s
    rw [hformat] at hsaid
    exact hsaid.leavesFile
  refine ⟨fun _ _ _ _ hformat => hleaves hformat, fun _ _ _ _ _ hformat => ?_, fun hdisk => ?_⟩
  · exact ⟨h.ne_fileUpdated hformat, hleaves hformat⟩
  · exact absurd (h.offDisk.symm.trans hdisk) (by simp)

namespace Host

/-- The formatters at hand compute the functions. -/
def Computes (host : Host) (g : String → TextFunction) : Prop :=
  ∀ id f, host.formatters.get? id = some f → f.Computes (g id)

/-- What the formatter of an id comes to, whether there is one or not. -/
def outcome (host : Host) (g : String → TextFunction) (id : String) : TextFunction := fun request =>
  if (host.formatters.get? id).isSome then g id request else .error (.formatterMissing id)

/-- The text after an outcome: the one that was made, or else the one before. -/
def textAfter (text : String) : Except Failure (Option String) → String
  | .ok (some made) => made
  | _ => text

/-- A chain of formatters, folded over a text. -/
def foldText (host : Host) (g : String → TextFunction) (p : Path) (language : String)
    (ids : List String) (text : String) : String :=
  ids.foldl (fun text id => textAfter text (host.outcome g id ⟨p, language, text⟩)) text

/-- What the formatters of a chain come to one after the other: their ids, and why they fail. -/
def foldSteps (host : Host) (g : String → TextFunction) (p : Path) (language : String) :
    List String → String → List (String × Option Failure)
  | [], _ => []
  | id :: rest, text =>
    let result := host.outcome g id ⟨p, language, text⟩
    (id, failure? result) :: host.foldSteps g p language rest (textAfter text result)

end Host

/-! ## Nothing gets in the way -/

/-- Nothing gets in the way of a formatter: the file is in step and may be written, nobody wants to
stop, and the setting that names the formatter may be written at the narrowest scope.  The document
is of the language and has the text. -/
structure Session.Ready (s : Session) (n : Nat) (p : Path) (original : String) (scope : Scope)
    (language text : String) : Prop where
  inStep : s.InStep n p original
  isWritable : s.IsWritable p
  going : s.cancelled = false
  narrowest : s.app.settings.narrowestScope? = some scope
  layer : s.app.settings.IsWritable scope
  language : (s.document n).language = language
  text : (s.document n).text = text

namespace Session

variable {s s' : Session} {n : Nat} {p : Path} {original language text : String} {scope : Scope}

theorem Ready.withEvents (h : s.Ready n p original scope language text) (hsaid : WithEvents s s') :
    s'.Ready n p original scope language text := by
  refine ⟨h.inStep.withEvents hsaid, hsaid.isWritable h.isWritable, ?_, ?_, ?_, ?_, ?_⟩
  · rw [hsaid.cancelled, h.going]
  · rw [hsaid.app, h.narrowest]
  · rw [hsaid.app]
    exact h.layer
  · rw [hsaid.document, h.language]
  · rw [hsaid.document, h.text]

theorem Ready.setText (h : s.Ready n p original scope language text) (made : String) :
    (s.putDocument n ((s.document n).setText made)).Ready n p original scope language made := by
  refine ⟨h.inStep.setText made, h.isWritable, h.going, h.narrowest, h.layer, ?_, ?_⟩
  · rw [document_putDocument_self, Document.language_setText, h.language]
  · rw [document_putDocument_self, Document.text_setText]

/-- A write of a setting leaves the layers writable and the narrowest scope the narrowest. -/
theorem Ready.withSettings {settings : Settings} {written : Scope} {key : String}
    {value : Option Value} {l : Option String} (h : s.Ready n p original scope language text)
    (hset : s.app.settings.setRaw written key l value = .ok settings) :
    { s with app := { s.app with settings } }.Ready n p original scope language text := by
  refine ⟨h.inStep.withApp _, h.isWritable, h.going, ?_, ?_, h.language, h.text⟩
  · exact (Settings.narrowestScope?_setRaw hset).trans h.narrowest
  · exact (Settings.isWritable_setRaw hset scope).2 h.layer

theorem Ready.withGuard (h : s.Ready n p original scope language text) (guard : Guard) :
    { s with app := { s.app with guard } }.Ready n p original scope language text :=
  ⟨h.inStep.withApp _, h.isWritable, h.going, h.narrowest, h.layer, h.language, h.text⟩

end Session

namespace Host

variable {host : Host} {course : Course} {n : Nat} {p : Path}
  {original language text : String} {scope : Scope} {s s' : Session} {g : String → TextFunction}

/-- A document that is ready and saved is ready. -/
theorem Saved.ready (h : Saved n s (.ok ()) s')
    (hready : s.Ready n p original scope language text) :
    s'.Ready n p original scope language text := by
  obtain ⟨hin, hdocument⟩ := h.inStep hready.inStep
  cases h with
  | remembered htarget _ => exact absurd (hready.inStep.target.symm.trans htarget) (by simp)
  | written _ hwrite hsaid =>
    rw [hready.inStep.path] at hwrite
    have hwritable :=
      hready.isWritable.write hready.inStep.read hready.inStep.holdsTexts hwrite
    refine ⟨hin, hsaid.isWritable hwritable, ?_, ?_, ?_, ?_, ?_⟩
    · rw [hsaid.cancelled]
      exact hready.going
    · rw [hsaid.app]
      exact hready.narrowest
    · rw [hsaid.app]
      exact hready.layer
    · rw [hdocument]
      exact hready.language
    · rw [hdocument]
      exact hready.text

/-- Saving a document that is ready is not refused. -/
theorem SavedIf.ready {wanted : Prop} {cause : Option Failure} (h : SavedIf n wanted s cause s')
    (hready : s.Ready n p original scope language text) :
    cause = none ∧ s'.Ready n p original scope language text := by
  cases h with
  | unwanted _ => exact ⟨rfl, hready⟩
  | saved _ hsave => exact ⟨rfl, hsave.ready hready⟩
  | refused _ hsave _ =>
    cases hsave with
    | refused _ hwrite _ =>
      obtain ⟨disk, hdisk⟩ := hready.isWritable (s.document n).text
      rw [hready.inStep.path, hdisk] at hwrite
      exact absurd hwrite (by simp)

/-! ## Single formatters -/

/-- A formatter that the setting names is the active one, unless it is reserved. -/
theorem activeFormatter_of_value? {settings : Settings} {id : String}
    (hvalue : settings.value? Settings.Key.defaultFormatter (some language) = some (.string id))
    (hid : isReservedId id = false) : activeFormatter settings language = .ok id := by
  have hread : settings.read decodeString Settings.Key.defaultFormatter (some language) =
      .ok (some id) := by
    rw [Settings.read, hvalue]
    rfl
  simp only [activeFormatter, hread, hid, Bool.false_eq_true, if_false]

/-- A formatter that is named at the narrowest scope is the active one. -/
theorem activeFormatter_of_named {settings : Settings} {id : String}
    (hscope : settings.narrowestScope? = some scope)
    (hnamed : settings.raw? scope Settings.Key.defaultFormatter (some language) =
      some (.string id)) (hid : isReservedId id = false) :
    activeFormatter settings language = .ok id :=
  activeFormatter_of_value? (Settings.value?_of_raw?_narrowest hscope hnamed) hid

/-- Where the formatter of an id is active and none is chosen, there is none of this id. -/
theorem outcome_of_unchosen {settings : Settings} {id : String} {e : Failure}
    (hactive : activeFormatter settings language = .ok id)
    (h : host.chooseFormatter settings language = .error e) (request : FormatRequest) :
    host.outcome g id request = .error e := by
  simp only [chooseFormatter, hactive, bind, Except.bind] at h
  cases hget : host.formatters.get? id with
  | none =>
    rw [hget] at h
    obtain rfl := Except.error.inj h
    simp [outcome, hget]
  | some formatter =>
    rw [hget] at h
    cases h

/-- What a formatter came to that was chosen: what its function says. -/
theorem outcome_of_chosen {settings : Settings} {id : String} {formatter : Formatter}
    {request : FormatRequest} {result : Except Failure FormatOutput} {asked made : Session}
    (hcomputes : host.Computes g) (hactive : activeFormatter settings language = .ok id)
    (h : host.chooseFormatter settings language = .ok formatter)
    (hformat : (formatter.format request).run asked = (result, made)) :
    result = (host.outcome g id request).map FormatOutput.ofText? ∧ WithEvents asked made := by
  obtain ⟨other, hother, hget⟩ := chooseFormatter_eq_ok_iff.1 h
  obtain rfl : other = id := Except.ok.inj (hother.symm.trans hactive)
  have houtcome : host.outcome g other request = g other request := by simp [outcome, hget]
  have hresult := (hcomputes other formatter hget).result request asked
  have hsaid := (hcomputes other formatter hget).onlySays request asked
  rw [hformat] at hresult hsaid
  rw [houtcome]
  exact ⟨hresult, hsaid⟩

/-- What a function made of a text is always taken over. -/
theorem run_takeOutput_ofText? (made : Option String) (s : Session) :
    ∃ taken, (takeOutput n (.ofText? made)).run s = (.ok (), taken) := by
  cases made with
  | none => exact ⟨_, run_takeOutput_unchanged⟩
  | some made => exact ⟨_, run_takeOutput_text made⟩

theorem takeOutput_folds {made : Option String} {result : Except Failure Unit}
    (hready : s.Ready n p original scope language text)
    (htake : (takeOutput n (.ofText? made)).run s = (result, s')) :
    s'.Ready n p original scope language (textAfter text (.ok made)) ∧
      (s'.document n).saved = (s.document n).saved := by
  cases made with
  | none =>
    obtain ⟨-, rfl⟩ := Prod.mk.inj (run_takeOutput_unchanged.symm.trans htake)
    exact ⟨hready, rfl⟩
  | some made =>
    obtain ⟨-, rfl⟩ := Prod.mk.inj ((run_takeOutput_text made).symm.trans htake)
    refine ⟨hready.setText made, ?_⟩
    rw [Session.document_putDocument_self, Document.saved_setText]

/-- All that formatting comes to where the active formatter computes: its function fails and nothing
changes, or what the function made of the text is taken over. -/
theorem Formatted.computed {result : Except Failure Unit} {id : String}
    (h : host.Formatted n s result s') (hcomputes : host.Computes g)
    (hactive : activeFormatter s.app.settings (s.document n).language = .ok id) :
    (∃ e, host.outcome g id (requestFor (s.document n)) = .error e ∧ result = .error e ∧
        WithEvents s s') ∨
      ∃ made asked taken, host.outcome g id (requestFor (s.document n)) = .ok made ∧
        result = .ok () ∧ WithEvents s asked ∧
        (takeOutput n (.ofText? made)).run asked = (.ok (), taken) ∧ WithEvents taken s' := by
  cases h with
  | unchosen h => exact .inl ⟨_, outcome_of_unchosen hactive h _, rfl, refl s⟩
  | failed h hasked hformat =>
    obtain ⟨houtcome, hsaid⟩ := outcome_of_chosen hcomputes hactive h hformat
    exact .inl ⟨_, error_of_map houtcome, rfl, IsTrans.trans _ _ _ hasked hsaid⟩
  | untaken h hasked hformat htake =>
    obtain ⟨houtcome, -⟩ := outcome_of_chosen hcomputes hactive h hformat
    obtain ⟨made, -, rfl⟩ := ok_of_map houtcome
    obtain ⟨taken, hok⟩ := run_takeOutput_ofText? made _
    exact absurd (Prod.mk.inj (hok.symm.trans htake)).1 (by simp)
  | taken h hasked hformat htake htold =>
    obtain ⟨houtcome, hsaid⟩ := outcome_of_chosen hcomputes hactive h hformat
    obtain ⟨made, hmade, rfl⟩ := ok_of_map houtcome
    exact .inr ⟨made, _, _, hmade, rfl, IsTrans.trans _ _ _ hasked hsaid, htake, htold⟩

/-- **Formatting is one step of the fold.** -/
theorem Formatted.folds {result : Except Failure Unit} {id : String}
    (h : host.Formatted n s result s') (hcomputes : host.Computes g)
    (hready : s.Ready n p original scope language text)
    (hactive : activeFormatter s.app.settings language = .ok id) :
    failure? result = failure? (host.outcome g id ⟨p, language, text⟩) ∧
      s'.Ready n p original scope language
        (textAfter text (host.outcome g id ⟨p, language, text⟩)) ∧
      (s'.document n).saved = (s.document n).saved := by
  have hrequest : requestFor (s.document n) = ⟨p, language, text⟩ := by
    rw [requestFor, hready.inStep.path, hready.language, hready.text]
  rw [← hready.language] at hactive
  rw [← hrequest]
  rcases h.computed hcomputes hactive with
    ⟨e, houtcome, rfl, hsaid⟩ | ⟨made, asked, taken, houtcome, rfl, hasked, htake, htold⟩
  · rw [houtcome]
    exact ⟨rfl, hready.withEvents hsaid, congrArg Document.saved (hsaid.document n)⟩
  · obtain ⟨htaken, hsaved⟩ := takeOutput_folds (hready.withEvents hasked) htake
    rw [houtcome]
    refine ⟨rfl, htaken.withEvents htold, ?_⟩
    rw [htold.document, hsaved, hasked.document]

/-! ## All formatters -/

theorem runStep_folds (hcomputes : host.Computes g) (hidles : host.Idles WithEvents)
    (hconfirm : course.confirm = host.poll) {slot : Slot} {index : Nat} {id : String}
    {fingerprint after : Fingerprint} {step : StepReport}
    (hready : s.Ready course.document p original scope language text)
    (hactive : activeFormatter s.app.settings language = .ok id)
    (hran : host.runStep course slot index id fingerprint s = ((step, after), s')) :
    (step.formatter, step.failure) = (id, failure? (host.outcome g id ⟨p, language, text⟩)) ∧
      s'.Ready course.document p original scope language
        (textAfter text (host.outcome g id ⟨p, language, text⟩)) ∧
      (s'.document course.document).saved = (s.document course.document).saved := by
  obtain ⟨asked, hasked, hconclude, hid, hfailure⟩ := runStep_spec hidles hconfirm hran
  have hactive' : activeFormatter asked.app.settings language = .ok id := by
    rw [hasked.app, hactive]
  obtain ⟨hresult, hmade, hsaved⟩ := (formatDocument_formatted host course.document asked).folds
    hcomputes (hready.withEvents hasked) hactive'
  refine ⟨?_, hmade.withEvents hconclude, ?_⟩
  · rw [hid, hfailure, hresult]
  · rw [hconclude.document, hsaved, hasked.document]

/-- A formatter that was named has its step as one step of the fold. -/
theorem named_folds (hcomputes : host.Computes g) (hidles : host.Idles WithEvents)
    (hconfirm : course.confirm = host.poll) {slot slot' : Slot} {index : Nat} {id : String}
    {fingerprint after : Fingerprint} {settings : Settings} {step : StepReport}
    {announced stepped : Session} (hready : s.Ready course.document p original scope language text)
    (hscope : slot.scope = scope) (hlanguage : slot.language = language)
    (hid : isReservedId id = false) (hannounced : WithEvents s announced)
    (hactivate : slot.activate id s.app.settings = .ok (slot', settings))
    (hran : host.runStep course slot' index id fingerprint
      { announced with app := { announced.app with settings } } = ((step, after), stepped)) :
    (step.formatter, step.failure) = (id, failure? (host.outcome g id ⟨p, language, text⟩)) ∧
      stepped.Ready course.document p original scope language
        (textAfter text (host.outcome g id ⟨p, language, text⟩)) ∧
      (stepped.document course.document).saved = (s.document course.document).saved := by
  have hset := (Slot.activate_eq_ok_iff.1 hactivate).2
  rw [hscope, hlanguage, ← hannounced.app] at hset
  have hnamed := (hready.withEvents hannounced).withSettings hset
  have hraw := Settings.raw?_setRaw hset scope Settings.Key.defaultFormatter (some language)
  rw [if_pos ⟨rfl, rfl, rfl⟩] at hraw
  obtain ⟨hstep, hstepped, hsaved⟩ := runStep_folds hcomputes hidles hconfirm hnamed
    (activeFormatter_of_named hnamed.narrowest hraw hid) hran
  exact ⟨hstep, hstepped, hsaved.trans (congrArg Document.saved (hannounced.document _))⟩

/-- **Running formatters is the fold.** -/
theorem Stepped.folds (hcomputes : host.Computes g) (hidles : host.Idles WithEvents)
    (hconfirm : course.confirm = host.poll) {index : Nat} {ids : List String} {slot : Slot}
    {fingerprint : Fingerprint} {stepping : Stepping}
    (h : Stepped host course index ids slot fingerprint s stepping s')
    (hready : s.Ready course.document p original scope language text)
    (hscope : slot.scope = scope) (hlanguage : slot.language = language)
    (hids : ∀ id ∈ ids, isReservedId id = false) :
    stepping.cancelled = false ∧ stepping.failure = none ∧
      stepping.steps.map (fun step => (step.formatter, step.failure)) =
        host.foldSteps g p language ids text ∧
      s'.Ready course.document p original scope language (host.foldText g p language ids text) ∧
      (course.options.saveAfterEach = false →
        (s'.document course.document).saved = (s.document course.document).saved) := by
  induction h generalizing text with
  | done => exact ⟨rfl, rfl, rfl, hready, fun _ => rfl⟩
  | cancelled hcancelled _ => exact absurd (hcancelled.symm.trans hready.going) (by simp)
  | refused _ hactivate _ =>
    obtain ⟨settings, hset⟩ := hready.layer.setRaw Settings.Key.defaultFormatter (some language)
      (some (.string _))
    rw [← hscope, ← hlanguage] at hset
    have hok := Slot.activate_eq_ok_iff.2 ⟨rfl, hset⟩
    exact absurd (hactivate.symm.trans hok) (by simp)
  | unsaved _ hannounced hactivate hran hsave =>
    obtain ⟨-, hstepped, -⟩ := named_folds hcomputes hidles hconfirm hready hscope hlanguage
      (hids _ List.mem_cons_self) hannounced hactivate hran
    exact absurd (hsave.ready hstepped).1 (by simp)
  | goesOn _ hannounced hactivate hran hsave _ ih =>
    obtain ⟨hstep, hstepped, hsaved⟩ := named_folds hcomputes hidles hconfirm hready hscope
      hlanguage (hids _ List.mem_cons_self) hannounced hactivate hran
    obtain ⟨rfl, -⟩ := Slot.activate_eq_ok_iff.1 hactivate
    obtain ⟨hcancelled, hfailure, hsteps, hend, hkept⟩ := ih (hsave.ready hstepped).2 hscope
      hlanguage fun id hid => hids id (List.mem_cons_of_mem _ hid)
    refine ⟨hcancelled, hfailure, ?_, hend, fun heach => ?_⟩
    · rw [List.map_cons, hstep, hsteps]
      rfl
    · rw [hkept heach, ← hsaved]
      cases hsave with
      | unwanted _ => rfl
      | saved hwanted _ => exact absurd (hwanted.1.symm.trans heach) (by simp)

/-! ## Whole runs -/

theorem restore_ready (slot : Slot) (hready : s.Ready n p original scope language text) :
    (restore slot s).2.Ready n p original scope language text ∧
      (restore slot s).2.document n = s.document n := by
  cases hrestore : slot.restore s.app.settings with
  | error e =>
    have hsaid := restore_error hrestore
    exact ⟨hready.withEvents hsaid, hsaid.document n⟩
  | ok settings =>
    have hrestored : { s with app := { s.app with settings } }.Ready n p original scope language
        text := by
      rcases Slot.restore_eq_ok_iff.1 hrestore with ⟨-, hset⟩ | ⟨-, rfl⟩
      · exact hready.withSettings hset
      · exact hready
    have hsaid := restore_ok hrestore
    exact ⟨hrestored.withEvents hsaid, hsaid.document n⟩

/-- What a run does after its formatters leaves the text, and reports what they came to. -/
theorem fromRestore_folds (stepping : Stepping)
    (hready : s.Ready course.document p original scope language text) :
    let ended := fromRestore course original stepping s
    ended.2.Ready course.document p original scope language text ∧
      ended.1 = ⟨if text = original then .noChanges else .replace text, stepping.steps,
        stepping.cancelled, stepping.failure⟩ ∧
      (course.options.saveAfterChain = false →
        (ended.2.document course.document).saved = (s.document course.document).saved) := by
  intro ended
  obtain ⟨cause, saved, hsave, hsaid, hreport⟩ := fromRestore_cases course original stepping s
  obtain ⟨hrestored, hdocument⟩ := restore_ready stepping.slot hready
  obtain ⟨rfl, hsaved⟩ := hsave.ready hrestored
  refine ⟨hsaved.withEvents hsaid, ?_, fun hchain => ?_⟩
  · change ended.1 = _ at hreport
    rw [hreport, hsaved.text]
    rfl
  · rw [hsaid.document]
    cases hsave with
    | unwanted _ => exact congrArg Document.saved hdocument
    | saved hwanted _ => exact absurd (hwanted.2.1.symm.trans hchain) (by simp)

theorem map_fst_foldSteps (host : Host) (g : String → TextFunction) (p : Path)
    (language : String) (ids : List String) (text : String) :
    (host.foldSteps g p language ids text).map Prod.fst = ids := by
  induction ids generalizing text with
  | nil => rfl
  | cons id rest ih => rw [foldSteps, List.map_cons, ih]

/-- What the formatter of an index comes to: it is told the fold of the formatters before it. -/
theorem getElem?_foldSteps (ids : List String) (text : String) (index : Nat) :
    ((host.foldSteps g p language ids text)[index]?).map Prod.snd =
      ids[index]?.map fun id =>
        failure? (host.outcome g id
          ⟨p, language, host.foldText g p language (ids.take index) text⟩) := by
  induction ids generalizing text index with
  | nil => rfl
  | cons id rest ih =>
    cases index with
    | zero => rfl
    | succ index => exact ih _ index

/-- The report on a run tells of a fold over a text: of one step for each formatter, which has
failed if its formatter fails on the fold of those before it, and of the text in the end. -/
structure TellsOfFold (host : Host) (g : String → TextFunction) (p : Path) (language : String)
    (ids : List String) (text : String) (report : RunReport) : Prop where
  formatters : report.steps.map StepReport.formatter = ids
  failures : ∀ index : Nat, report.steps[index]?.map StepReport.failure =
    ids[index]?.map fun id =>
      failure? (host.outcome g id ⟨p, language, host.foldText g p language (ids.take index) text⟩)
  edit : report.edit =
    if ids = [] then .skipped .emptyChain
    else if host.foldText g p language ids text = text then .noChanges
    else .replace (host.foldText g p language ids text)
  cancelled : report.cancelled = false
  failure : report.failure = none

/-- **A run is a fold.** A run on a document that was never saved, of which nothing gets in the way,
leaves it with the fold of its chain over its text. -/
theorem run_folds (chain : Chain) (options : RunOptions) (hcomputes : host.Computes g)
    (hidles : host.Idles WithEvents) (hfree : s.app.guard.held = false)
    (hnew : (s.document n).saved = none) (hready : s.Ready n p text scope language text) :
    let ran := host.run n chain options s
    let final := host.foldText g p language chain.ids text
    ran.2.Ready n p text scope language final ∧
      TellsOfFold host g p language chain.ids text ran.1 ∧
      (options.saveAfterEach = false → options.saveAfterChain = false →
        (ran.2.document n).saved = none) := by
  intro ran final
  have hran : Ran host host.poll n chain options s ran.1 ran.2 := runWith_ran _ _ _ _ _ _
  generalize ran.1 = report at hran ⊢
  generalize ran.2 = s' at hran ⊢
  have hdirty : (s.document n).isDirty = true := by simp [Document.isDirty, hnew]
  have hheld : (held s).Ready n p text scope language text := hready.withGuard _
  cases hran with
  | alreadyRunning hheld _ => exact absurd (hheld.symm.trans hfree) (by simp)
  | notDirty _ hclean _ => exact absurd (hclean.symm.trans hdirty) (by simp)
  | @emptyChain said _ _ hchain hsaid =>
    have hfinal : final = text := by
      change host.foldText g p language chain.ids text = text
      rw [hchain]
      rfl
    rw [hfinal]
    refine ⟨(hheld.withEvents hsaid).withGuard _, ?_, fun _ _ => ?_⟩
    · rw [hchain]
      exact ⟨rfl, fun _ => rfl, rfl, rfl, rfl⟩
    · exact (congrArg Document.saved (hsaid.document n)).trans hnew
  | uncaptured _ _ _ hacquire _ =>
    rw [Slot.acquire_of_narrowest hready.narrowest] at hacquire
    exact absurd hacquire (by simp)
  | @completed slot stepping stepped ended _ _ _ hchain hacquire hstepped hended =>
    rw [Slot.acquire_of_narrowest hready.narrowest] at hacquire
    obtain rfl := Except.ok.inj hacquire
    obtain ⟨announced, hannounced, hsteps⟩ := upToRestore_stepped host
      (courseOf host.poll n chain options) chain (.at s.app.settings scope (s.document n).language)
      (held s)
    rw [hstepped] at hsteps
    obtain ⟨hcancelled, hfailure, hfold, hend, hkept⟩ := hsteps.folds hcomputes hidles rfl
      (hheld.withEvents hannounced) rfl hready.language chain.unreserved
    obtain ⟨hended', hreport, hkept'⟩ := fromRestore_folds stepping hend
    rw [hready.text] at hended
    rw [hended] at hended' hreport hkept'
    refine ⟨hended'.withGuard _, ?_, fun heach hoption => ?_⟩
    · obtain rfl := hreport
      refine ⟨?_, fun index => ?_, ?_, hcancelled, hfailure⟩
      · rw [← map_fst_foldSteps host g p language chain.ids text, ← hfold, List.map_map]
        rfl
      · rw [← getElem?_foldSteps, ← hfold, List.getElem?_map, Option.map_map]
        rfl
      · rw [if_neg hchain]
    · have hbefore : (announced.document n).saved = none :=
        (congrArg Document.saved (hannounced.document n)).trans hnew
      exact (hkept' hoption).trans ((hkept heach).trans hbefore)

/-- Formatters that compute leave the file of a document to the editor. -/
theorem Computes.mindsFile (hcomputes : host.Computes g) (hidles : host.Idles WithEvents) (n : Nat)
    (p : Path) : host.MindsFile n p := by
  refine ⟨⟨fun _ _ h => h.leavesFile, fun millis => ?_⟩, fun id f h => ?_⟩
  · exact (hidles.meanwhile millis).mono fun _ _ h => h.leavesFile
  · exact (hcomputes id f h).mindsFile n p

end Host

end FormatChain
