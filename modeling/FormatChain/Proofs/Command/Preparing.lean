import FormatChain.Command.Format
import FormatChain.Proofs.Session.Files
import FormatChain.Proofs.Session.Notifications

/-!
# Before a file is formatted

Before the chain of a file runs its text is read, settings are loaded, and formatters are found.
This touches no file and no document.

* `Session.SetsUp` : the relation of setting up, which changes settings, flags and the history.
* `Workspace.loadSettings_leads` : loading settings finds words, and may raise two flags.
* `Command.prepare`, `Command.run_prepare_cases` : all that goes before the chain of a file.
* `Command.run_formatFile` : formatting a file that was prepared is working on its document.
-/

namespace FormatChain

open FormatChain.Settings (Layer PerScope Places Scope)
open FormatChain.Session (AllowsWords WithEvents withEvents_allowsWords)

namespace Session

variable {s s' : Session}

/-- Only settings, the two flags of the session and the history change. -/
def SetsUp (s s' : Session) : Prop :=
  ∃ settings verbose collapsed history,
    s' = { s with app := { s.app with settings }, verbose, collapsed, history }

instance : IsPreorder Session SetsUp where
  refl s := ⟨s.app.settings, s.verbose, s.collapsed, s.history, rfl⟩
  trans := by
    rintro _ _ _ ⟨_, _, _, _, rfl⟩ ⟨settings, verbose, collapsed, history, rfl⟩
    exact ⟨settings, verbose, collapsed, history, rfl⟩

theorem WithEvents.setsUp (h : WithEvents s s') : SetsUp s s' := by
  obtain ⟨events, rfl⟩ := h
  exact ⟨s.app.settings, s.verbose, s.collapsed, events ++ s.history, rfl⟩

namespace SetsUp

theorem read (h : SetsUp s s') (p : Path) : s'.read p = s.read p := by
  obtain ⟨_, _, _, _, rfl⟩ := h
  rfl

theorem holdsTexts {p : Path} (h : SetsUp s s') (hp : s.HoldsTexts p) : s'.HoldsTexts p := by
  obtain ⟨_, _, _, _, rfl⟩ := h
  exact hp

theorem isWritable {p : Path} (h : SetsUp s s') (hp : s.IsWritable p) : s'.IsWritable p := by
  obtain ⟨_, _, _, _, rfl⟩ := h
  exact hp

theorem cancelled (h : SetsUp s s') : s'.cancelled = s.cancelled := by
  obtain ⟨_, _, _, _, rfl⟩ := h
  rfl

theorem guard (h : SetsUp s s') : s'.app.guard = s.app.guard := by
  obtain ⟨_, _, _, _, rfl⟩ := h
  rfl

theorem conflicted (h : SetsUp s s') : s'.app.conflicted = s.app.conflicted := by
  obtain ⟨_, _, _, _, rfl⟩ := h
  rfl

end SetsUp

end Session

open FormatChain.Session (SetsUp)

/-! ## Loading settings -/

namespace Session

variable {R : Session → Session → Prop}

/-- The relation does not mind words, nor that one of the two flags is raised that loading settings
may raise. -/
structure AllowsLoading (R : Session → Session → Prop) : Prop extends AllowsWords R where
  collapsed (s : Session) : R s { s with collapsed := true }
  verbose (s : Session) : R s { s with verbose := true }

theorem setsUp_allowsLoading : AllowsLoading SetsUp where
  logged text context s := (withEvents_allowsWords.logged text context s).setsUp
  notified kind text s := (withEvents_allowsWords.notified kind text s).setsUp
  collapsed s := ⟨s.app.settings, s.verbose, true, s.history, rfl⟩
  verbose s := ⟨s.app.settings, true, s.collapsed, s.history, rfl⟩

end Session

namespace Workspace

open Session (AllowsLoading setsUp_allowsLoading)

variable {R : Session → Session → Prop} [IsPreorder Session R] (h : AllowsLoading R)
include h

theorem parseLayer_leads (scope : Scope) (path : Path) (text : String) :
    Attempt.Leads R (parseLayer scope path text) := by
  unfold parseLayer
  split
  · exact Attempt.leads_pure _
  · split
    · exact Attempt.Leads.bind h.collapsed fun _ => Attempt.leads_throw _
    · exact Attempt.leads_throw _

theorem loadLayer_leads (scope : Scope) (path : Path) :
    Attempt.Leads R (loadLayer scope path) := by
  refine Attempt.Leads.bind (fun s => refl s) fun s => ?_
  split
  · refine Attempt.Leads.bind (h.debug _) fun _ => ?_
    refine Attempt.Leads.bind ((Attempt.readText_leads h.toAllowsWords path).adapt _) fun text => ?_
    refine Attempt.Leads.bind (parseLayer_leads h scope path text) fun layer => ?_
    exact Attempt.Leads.bind (fun s => refl s) fun _ => Attempt.leads_pure _
  · exact Attempt.leads_pure _

theorem loadFrom_leads (files : List (Scope × Path)) (layers : PerScope Layer) :
    Attempt.Leads R (loadFrom layers files) := by
  induction files generalizing layers with
  | nil => exact Attempt.leads_pure _
  | cons file rest ih =>
    exact Attempt.Leads.bind (loadLayer_leads h file.1 file.2) fun layer => ih _

theorem loadLayers_leads (places : Places) : Attempt.Leads R (loadLayers places) :=
  loadFrom_leads h _ _

theorem debugIfAsked_leads (settings : Settings) : Action.Leads R (debugIfAsked settings) := by
  refine (h.tell _).bind fun asked => ?_
  refine Action.Leads.bind (fun s => refl s) fun s => ?_
  refine Action.Leads.ite ?_ (Action.leads_pure _)
  exact Action.Leads.bind h.verbose fun _ => h.debug _

/-- **Loading settings finds words, and may raise two flags.** -/
theorem loadSettings_leads (root : Path) (document : Option Path) :
    Attempt.Leads R (loadSettings root document) := by
  refine Attempt.Leads.bind (fun s => refl s) fun places => ?_
  refine Attempt.Leads.bind (loadLayers_leads h places) fun layers => ?_
  refine Attempt.Leads.bind (h.debug _) fun _ => ?_
  exact Attempt.Leads.bind (debugIfAsked_leads h _) fun _ => Attempt.leads_pure _

omit h in
/-- **Loading settings only sets up.** -/
theorem loadSettings_setsUp (root : Path) (document : Option Path) :
    Attempt.Leads SetsUp (loadSettings root document) :=
  loadSettings_leads setsUp_allowsLoading root document

end Workspace

/-! ## Preparing a file -/

namespace Command

variable {bench : Workbench} {file : String} {language : Option String} {host : Host}
  {d : Document} {s s' : Session}

/-- All that goes before the chain of a file: the editor for it and its document, or nothing if the
file has no language. -/
def prepare (bench : Workbench) (file : String) (language : Option String) :
    Attempt (Option (Host × Document)) := do
  let path ← Workspace.resolvePath file
  let text ← Attempt.readText path
  let (settings, _) ← Workspace.loadSettings bench.root (some path)
  match ← languageOf settings path language with
  | none => return none
  | some language =>
    Action.setSettings settings
    let formatters ← bench.formatters settings
    return some (⟨formatters, bench.meanwhile⟩, ⟨path, language, text, none, .disk, 1⟩)

/-- **Formatting a file is preparing it, and then working on its document.** -/
theorem formatFile_eq (bench : Workbench) (file : String) (language : Option String) :
    formatFile bench file language = (do
      match ← prepare bench file language with
      | none => pure ()
      | some (host, d) => withDocument d (formatDocument host)) := by
  simp only [formatFile, prepare, bind_assoc]
  refine bind_congr fun path => bind_congr fun text => bind_congr fun loaded =>
    bind_congr fun found => ?_
  cases found with
  | none => simp only [pure_bind]
  | some language => simp only [bind_assoc, pure_bind]

theorem languageOf_leads {R : Session → Session → Prop} [IsPreorder Session R]
    (h : AllowsWords R) (settings : Settings) (path : Path) (given : Option String) :
    Action.Leads R (languageOf settings path given) := by
  cases given with
  | some language => exact Action.leads_pure _
  | none =>
    refine (h.tell _).bind fun found => ?_
    exact Action.Leads.ite ((h.notify _ _).bind fun _ => Action.leads_pure _) (Action.leads_pure _)

theorem languageOf_onlySays (settings : Settings) (path : Path) (given : Option String) :
    Action.OnlySays (languageOf settings path given) :=
  languageOf_leads withEvents_allowsWords settings path given

/-- The session with a new document. -/
def opened (d : Document) (s : Session) : Session := s.putDocument s.documents.length d

theorem opened_document (d : Document) (s : Session) :
    (opened d s).document s.documents.length = d := by
  rw [opened, Session.document_putDocument, if_pos rfl]

/-- A document is closed after the work on it in any case. -/
theorem run_withDocument (d : Document) (work : Nat → Attempt Unit) (s : Session) :
    (withDocument d work).run s =
      let worked := (work s.documents.length).run (opened d s)
      (worked.1, { worked.2 with documents := worked.2.documents.take s.documents.length }) := rfl

/-- Formatting a file that was prepared ends as the work on its document does.  That the document is
closed after it changes neither a file nor what the person was told. -/
theorem run_formatFile (h : (prepare bench file language).run s = (.ok (some (host, d)), s')) :
    ((formatFile bench file language).run s).1 =
        ((formatDocument host s'.documents.length).run (opened d s')).1 ∧
      ((formatFile bench file language).run s).2.notifications =
        ((formatDocument host s'.documents.length).run (opened d s')).2.notifications ∧
      ∀ p, ((formatFile bench file language).run s).2.read p =
        ((formatDocument host s'.documents.length).run (opened d s')).2.read p := by
  have hrun : (formatFile bench file language).run s =
      (withDocument d (formatDocument host)).run s' := by
    rw [formatFile_eq, Attempt.run_bind_ok h]
  rw [hrun, run_withDocument]
  generalize (formatDocument host s'.documents.length).run (opened d s') = worked
  exact ⟨rfl, rfl, fun _ => rfl⟩

/-- All that preparing a file comes to: its text was read, settings were loaded, the language was
found, and formatters were found with the settings. -/
theorem run_prepare_cases
    (h : (prepare bench file language).run s = (.ok (some (host, d)), s')) :
    ∃ start settings places loaded asked,
      (Attempt.readText d.path).run s = (.ok d.text, start) ∧
      (Workspace.loadSettings bench.root (some d.path)).run start =
        (.ok (settings, places), loaded) ∧
      WithEvents loaded asked ∧
      s' = (bench.formatters settings (Action.setSettings settings asked).2).2 ∧
      d.saved = none ∧ d.target = .disk ∧ host.meanwhile = bench.meanwhile := by
  rw [prepare, Attempt.run_lift_bind] at h
  generalize (Workspace.resolvePath file s).1 = path at h
  obtain ⟨text, start, htext, h⟩ := Attempt.run_bind_eq_ok_iff.1 h
  obtain ⟨⟨settings, places⟩, loaded, hload, h⟩ := Attempt.run_bind_eq_ok_iff.1 h
  have hsaid := languageOf_onlySays settings path language loaded
  rw [Attempt.run_lift_bind] at h
  rcases hasked : languageOf settings path language loaded with ⟨_ | found, asked⟩
  · rw [hasked] at h
    exact absurd (Prod.mk.inj h).1 (by simp)
  · rw [hasked] at h hsaid
    simp only [Attempt.run_lift_bind, Attempt.run_pure] at h
    obtain ⟨hvalue, rfl⟩ := Prod.mk.inj h
    obtain ⟨rfl, rfl⟩ := Prod.mk.inj (Option.some.inj (Except.ok.inj hvalue))
    exact ⟨start, settings, places, loaded, asked, htext, hload, hsaid, rfl, rfl, rfl, rfl⟩

/-- What was prepared is the text of the file under its path, in a session that was only set up,
provided that finding formatters does nothing but say something. -/
theorem prepare_spec (hbench : ∀ settings, Action.OnlySays (bench.formatters settings))
    (h : (prepare bench file language).run s = (.ok (some (host, d)), s')) :
    SetsUp s s' ∧ s.read d.path = .ok d.text ∧ d.saved = none ∧ d.target = .disk ∧
      host.meanwhile = bench.meanwhile := by
  obtain ⟨start, settings, places, loaded, asked, htext, hload, hasked, rfl, hprepared⟩ :=
    run_prepare_cases h
  obtain ⟨hread, hsaid⟩ := Attempt.run_readText d.path s
  rw [htext] at hread hsaid
  have hloaded := Workspace.loadSettings_setsUp bench.root (some d.path) start
  rw [hload] at hloaded
  have hset : SetsUp asked (Action.setSettings settings asked).2 :=
    ⟨settings, asked.verbose, asked.collapsed, asked.history, rfl⟩
  have hfinding := hbench settings (Action.setSettings settings asked).2
  have hbefore : SetsUp s asked :=
    IsTrans.trans _ _ _ hsaid.setsUp (IsTrans.trans _ _ _ hloaded hasked.setsUp)
  exact ⟨IsTrans.trans _ _ _ hbefore (IsTrans.trans _ _ _ hset hfinding.setsUp), hread.symm,
    hprepared⟩

/-- The chain and the options of the language come from the settings, and the run follows. -/
theorem runLanguageChain_eq (host : Host) (n : Nat) (s : Session) :
    ∃ told, WithEvents s told ∧
      runLanguageChain host n s =
        host.run n (resolveChain s.app.settings (s.document n).language).value
          (resolveRunOptions s.app.settings (s.document n).language).value told := by
  have hchain := Action.tell_onlySays (resolveChain s.app.settings (s.document n).language)
  have hoptions := Action.tell_onlySays (resolveRunOptions s.app.settings (s.document n).language)
  exact ⟨_, hoptions.after (hchain s), rfl⟩

end Command

end FormatChain
