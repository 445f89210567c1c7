import FormatChain.CommandLine.Process
import FormatChain.Proofs.Command.Input
import FormatChain.Proofs.Run.Reports
import FormatChain.Proofs.Workspace.Faults

/-!
# Capturing the active formatter

A run names its formatters at the narrowest scope that has settings.  Settings that were loaded have
one in any case: that of the directory around the document if a settings file was found there, and
otherwise that of the workspace.  So a run that a command starts can always take hold of the
setting, and no command ends because it could not.

* `Settings.Places.narrowest` : the scope at which a run on a document names its formatters.
* `Attempt.FailsOnly` : the failures that an attempt may end with.
* `Command.HasLoaded` : the settings of a session are those of the files of a document.
* `Command.Captures` : the run on a document that was prepared takes hold of the setting.
* `Command.loading_captures` : loading fails with the first fault or finds all layers, and after it
  every run takes hold of the setting.
-/

namespace FormatChain

open Host (SameSettings)
open Session (SameFiles)
open Settings (Layer PerScope Places Scope)

/-! ## The narrowest scope -/

/-- The scope at which a run on a document names its formatters. -/
def Settings.Places.narrowest (places : Places) : Scope :=
  if places.folder.isSome then .workspaceFolder else .workspace

namespace Workspace

variable {s s' : Session} {root : Path} {document : Option Path} {settings : Settings}
  {places : Places} {layers : PerScope Layer}

/-- There is a narrowest scope in any case. -/
theorem IsLoadedAs.narrowestScope? (h : IsLoadedAs s places layers) :
    (Settings.ofLayers layers).narrowestScope? = some places.narrowest := by
  rw [Settings.narrowestScope?, h.scopes, Places.narrowest]
  cases places.folder with
  | none => rfl
  | some file => rfl

/-- Whether there is a settings file around a document depends on the files only. -/
theorem discover_folder_congr (h : SameFiles s s') (root : Path) (document : Option Path) :
    (discover root document s').1.folder = (discover root document s).1.folder := by
  have hthere : s'.pathExists = s.pathExists := funext h.pathExists
  change document.bind (Settings.folderSettings? s'.pathExists root) =
    document.bind (Settings.folderSettings? s.pathExists root)
  rw [hthere]

/-- Settings that were loaded are those of the files that were discovered. -/
theorem isLoadedAs_of_loadSettings
    (h : (loadSettings root document).run s = (.ok (settings, places), s')) :
    places = (discover root document s).1 ∧
      ∃ layers, settings = .ofLayers layers ∧ IsLoadedAs s places layers := by
  obtain ⟨hplaces, layers, loaded, hsettings, hload⟩ := run_loadSettings_cases h
  obtain ⟨result, said, hrun, -, -, hloaded⟩ := run_loadLayers_eq places s
  obtain ⟨rfl, -⟩ := Prod.mk.inj (hrun.symm.trans hload)
  exact ⟨hplaces, layers, hsettings, hloaded layers rfl⟩

end Workspace

/-! ## Failures -/

/-- The failure is that of a run. -/
def Failure.IsOfRun : Failure → Prop
  | .runStopped _ _ _ => True
  | _ => False

/-- Reading a file is no run. -/
theorem Session.not_isOfRun_of_read {s : Session} {p : Path} {e : Failure}
    (h : s.read p = .error e) : ¬ e.IsOfRun := by
  unfold read at h
  split at h
  · unfold readMemory at h
    split at h
    · obtain rfl := Except.error.inj h
      exact id
    · split at h
      · obtain rfl := Except.error.inj h
        exact id
      · exact absurd h (by simp)
  · unfold readMachine at h
    cases hopened : s.disk.openText s.cwd p with
    | ok text => simp [hopened, Except.mapError] at h
    | error cause =>
      rw [hopened] at h
      obtain rfl := Except.error.inj h
      exact id

theorem Session.LoadFault.not_isOfRun {s : Session} {file : Scope × Path} {e : Failure}
    (h : s.LoadFault file e) : ¬ e.IsOfRun := by
  cases h with
  | unreadable _ _ => exact id
  | malformed _ _ _ => exact id

namespace Attempt

variable {α β : Type} {P : Failure → Prop}

/-- Whatever session the attempt starts in, its failure is one of these if it fails. -/
def FailsOnly (P : Failure → Prop) (x : Attempt α) : Prop :=
  ∀ s e, (x.run s).1 = .error e → P e

theorem failsOnly_pure (a : α) : FailsOnly P (pure a : Attempt α) :=
  fun _ _ h => absurd h (by simp)

/-- An action does not fail. -/
theorem failsOnly_lift (x : Action α) : FailsOnly P (liftM x : Attempt α) :=
  fun _ _ h => absurd h (by simp)

theorem FailsOnly.bind {x : Attempt α} {f : α → Attempt β} (hx : FailsOnly P x)
    (hf : ∀ a, FailsOnly P (f a)) : FailsOnly P (x >>= f) := by
  intro s e h
  rcases hran : x.run s with ⟨e' | a, s'⟩
  · rw [run_bind_error hran] at h
    obtain rfl := Except.error.inj h
    exact hx s e' (congrArg Prod.fst hran)
  · rw [run_bind_ok hran] at h
    exact hf a s' e h

end Attempt

/-! ## Runs that take hold of the setting -/

/-- With settings that have a scope no run fails because there is none. -/
theorem Host.runWith_captured (host : Host) (confirm : Confirmer) (n : Nat) (chain : Chain)
    (options : RunOptions) {s : Session} {scope : Scope}
    (hscope : s.app.settings.narrowestScope? = some scope) (e : Settings.WriteError) :
    (host.runWith confirm n chain options s).1.failure ≠ some ⟨none, .settingRefused e⟩ := by
  have hran := runWith_ran host confirm n chain options s
  generalize (host.runWith confirm n chain options s).1 = report at hran ⊢
  generalize (host.runWith confirm n chain options s).2 = s' at hran
  cases hran with
  | alreadyRunning _ _ => exact fun h => nomatch h
  | notDirty _ _ _ => exact fun h => nomatch h
  | emptyChain _ _ _ _ => exact fun h => nomatch h
  | uncaptured _ _ _ hacquire _ =>
    rw [Slot.acquire_of_narrowest hscope] at hacquire
    exact absurd hacquire (by simp)
  | @completed slot stepping stepped ended _ _ _ _ _ hstepped hended =>
    obtain ⟨_, -, hsteps⟩ := upToRestore_stepped host (courseOf confirm n chain options) chain slot
      (held s)
    rw [hstepped] at hsteps
    have hfits := fromRestore_fits (s.document n).text hsteps.ends stepped
    rw [hended] at hfits
    exact fun h => (hfits.of_unsaved _ h).2.2

namespace Command

variable {bench : Workbench} {file : String} {language : Option String} {host : Host}
  {d : Document} {s prepared : Session}

/-! ## Before a run -/

/-- The search for formatters that run commands leaves the settings as they are. -/
theorem workbench_sameSettings (root : Path) (meanwhile : Nat → Action Unit)
    (settings : Settings) :
    Action.Leads SameSettings ((CommandLine.workbench root meanwhile).formatters settings) :=
  fun s => congrArg App.settings (Action.tell_onlySays (Registry.ofSettings settings) s).app

/-- The settings of the second session are those of the files around a path in the first one. -/
def HasLoaded (bench : Workbench) (path : Path) (s prepared : Session) : Prop :=
  ∃ start places loaded, SameFiles s start ∧
    (Workspace.loadSettings bench.root (some path)).run start =
      (.ok (prepared.app.settings, places), loaded)

theorem HasLoaded.narrowestScope? {path : Path} (h : HasLoaded bench path s prepared) :
    prepared.app.settings.narrowestScope? =
      some (Workspace.discover bench.root (some path) s).1.narrowest := by
  obtain ⟨start, places, loaded, hfiles, hload⟩ := h
  obtain ⟨rfl, layers, hsettings, hlayers⟩ := Workspace.isLoadedAs_of_loadSettings hload
  rw [hsettings, hlayers.narrowestScope?, Places.narrowest, Places.narrowest,
    Workspace.discover_folder_congr hfiles]

/-- The settings that are loaded for a file are there when its run starts. -/
theorem hasLoaded_of_prepare
    (hbench : ∀ settings, Action.Leads SameSettings (bench.formatters settings))
    (h : (prepare bench file language).run s = (.ok (some (host, d)), prepared)) :
    HasLoaded bench d.path s prepared := by
  obtain ⟨start, settings, places, loaded, asked, htext, hload, -, rfl, -⟩ := run_prepare_cases h
  have hsaid := (Attempt.run_readText d.path s).2
  rw [htext] at hsaid
  have hset : (bench.formatters settings (Action.setSettings settings asked).2).2.app.settings =
      settings := hbench settings _
  refine ⟨start, places, loaded, hsaid.sameFiles, ?_⟩
  rw [hset]
  exact hload

/-- A text that did not come in cannot be taken. -/
theorem run_takeInput_none (h : s.input = none) :
    Attempt.takeInput.run s = (.error .noInput, s) := by
  rw [Attempt.takeInput, Attempt.run_bind_ok (Attempt.run_get s), h]
  rfl

/-- The settings that are loaded for a text are there when its run starts. -/
theorem hasLoaded_of_prepareInput {text : String}
    (hbench : ∀ settings, Action.Leads SameSettings (bench.formatters settings))
    (h : (prepareInput bench file language).run s = (.ok (text, some (host, d)), prepared)) :
    HasLoaded bench d.path s prepared := by
  rw [prepareInput, Attempt.run_lift_bind] at h
  obtain ⟨taken, start, htaken, h⟩ := Attempt.run_bind_eq_ok_iff.1 h
  obtain ⟨⟨settings, places⟩, loaded, hload, h⟩ := Attempt.run_bind_eq_ok_iff.1 h
  have hfiles : SameFiles s start := by
    cases hinput : s.input with
    | none =>
      obtain ⟨hfailed, -⟩ := Prod.mk.inj ((run_takeInput_none hinput).symm.trans htaken)
      exact absurd hfailed (by simp)
    | some input =>
      obtain ⟨-, rfl⟩ := Prod.mk.inj ((run_takeInput hinput).symm.trans htaken)
      exact ⟨rfl, rfl, rfl⟩
  dsimp only at h
  rw [receive, Attempt.run_lift_bind] at h
  generalize (Workspace.resolvePath file s).1 = path at h hload
  rcases hasked : languageOf settings path language loaded with ⟨_ | found, asked⟩
  · rw [hasked] at h
    exact absurd (Prod.mk.inj h).1 (by simp)
  · rw [hasked] at h
    have hkept := hbench settings (Action.setSettings settings asked).2
    simp only [Attempt.run_lift_bind] at h
    rw [Attempt.run_bind_ok (run_forM_lift _ _ _), Attempt.run_pure] at h
    generalize bench.formatters settings (Action.setSettings settings asked).2 = ready at h hkept
    have hwarned := Action.Leads.forM (fun id : String => Action.warn_onlySays
      s!"Formatter '{id}' formats files on disk and can't be used when formatting stdin.")
      ready.1.withoutDisk.1 ready.2
    obtain ⟨hvalue, rfl⟩ := Prod.mk.inj h
    obtain ⟨-, hworked⟩ := Prod.mk.inj (Except.ok.inj hvalue)
    obtain ⟨rfl, rfl⟩ := Prod.mk.inj (Option.some.inj hworked)
    have hset : ready.2.app.settings = settings := hkept
    refine ⟨start, places, loaded, hfiles, ?_⟩
    rw [hwarned.app, hset]
    exact hload

/-! ## Failures before a run -/

theorem loadSettings_failsOnly (root : Path) (document : Option Path) :
    Attempt.FailsOnly (¬ Failure.IsOfRun ·) (Workspace.loadSettings root document) := by
  have hloading : ∀ places,
      Attempt.FailsOnly (¬ Failure.IsOfRun ·) (Workspace.loadLayers places) := by
    intro places s e h
    obtain ⟨result, said, hrun, -, herror, -⟩ := Workspace.run_loadLayers_eq places s
    rw [hrun] at h
    obtain ⟨_, file, _, -, hfault, -⟩ := (herror e).1 h
    exact hfault.not_isOfRun
  refine (Attempt.failsOnly_lift _).bind fun places => (hloading places).bind fun layers => ?_
  exact (Attempt.failsOnly_lift _).bind fun _ => (Attempt.failsOnly_lift _).bind fun _ =>
    Attempt.failsOnly_pure _

theorem readText_failsOnly (p : Path) :
    Attempt.FailsOnly (¬ Failure.IsOfRun ·) (Attempt.readText p) :=
  fun s _ h => Session.not_isOfRun_of_read ((Attempt.run_readText p s).1.symm.trans h)

/-- Before a file has a run no failure is that of a run. -/
theorem prepare_failsOnly (bench : Workbench) (file : String) (language : Option String) :
    Attempt.FailsOnly (¬ Failure.IsOfRun ·) (prepare bench file language) := by
  refine (Attempt.failsOnly_lift _).bind fun path => (readText_failsOnly path).bind fun text => ?_
  refine (loadSettings_failsOnly _ _).bind fun loaded => ?_
  refine (Attempt.failsOnly_lift _).bind fun found => ?_
  cases found with
  | none => exact Attempt.failsOnly_pure _
  | some found =>
    exact (Attempt.failsOnly_lift _).bind fun _ => (Attempt.failsOnly_lift _).bind fun _ =>
      Attempt.failsOnly_pure _

/-- Before a text has a run no failure is that of a run. -/
theorem prepareInput_failsOnly (bench : Workbench) (file : String) (language : Option String) :
    Attempt.FailsOnly (¬ Failure.IsOfRun ·) (prepareInput bench file language) := by
  have htaking : Attempt.FailsOnly (¬ Failure.IsOfRun ·) Attempt.takeInput := by
    intro s e h
    cases hinput : s.input with
    | some text =>
      rw [run_takeInput hinput] at h
      exact absurd h (by simp)
    | none =>
      rw [run_takeInput_none hinput] at h
      obtain rfl := Except.error.inj h
      exact id
  refine (Attempt.failsOnly_lift _).bind fun path => htaking.bind fun text => ?_
  refine (loadSettings_failsOnly _ _).bind fun loaded => ?_
  refine (Attempt.failsOnly_lift _).bind fun found => ?_
  cases found with
  | none => exact Attempt.failsOnly_pure _
  | some found =>
    refine (Attempt.failsOnly_lift _).bind fun _ => (Attempt.failsOnly_lift _).bind fun _ => ?_
    refine Attempt.FailsOnly.bind (fun s e h => ?_) fun _ => Attempt.failsOnly_pure _
    rw [run_forM_lift] at h
    exact absurd h (by simp)

/-! ## Runs on documents that were prepared -/

/-- The run on a document that was prepared takes hold of the setting of its language, at the scope
of the files that are discovered for it, and its report does not say that it could not. -/
structure Captures (bench : Workbench) (s : Session) (host : Host) (d : Document)
    (prepared : Session) : Prop where
  acquired : Slot.acquire prepared.app.settings d.language =
    .ok (.at prepared.app.settings
      (Workspace.discover bench.root (some d.path) s).1.narrowest d.language)
  reported (e : Settings.WriteError) :
    (runLanguageChain host prepared.documents.length (opened d prepared)).1.failure ≠
      some ⟨none, .settingRefused e⟩

theorem HasLoaded.captures (h : HasLoaded bench d.path s prepared) (host : Host) :
    Captures bench s host d prepared where
  acquired := Slot.acquire_of_narrowest h.narrowestScope? d.language
  reported e := by
    obtain ⟨told, htold, hran⟩ :=
      runLanguageChain_eq host prepared.documents.length (opened d prepared)
    have hsettings : told.app.settings = prepared.app.settings := congrArg App.settings htold.app
    rw [hran]
    exact Host.runWith_captured host host.poll _ _ _ (hsettings ▸ h.narrowestScope?) e

theorem verdict_captured {path p : Path} {report : RunReport} {e : Settings.WriteError}
    (h : report.failure ≠ some ⟨none, .settingRefused e⟩) :
    verdict path report ≠ .error (.runStopped p none (.settingRefused e)) := by
  unfold verdict
  cases hfailure : report.failure with
  | none => simp
  | some failure =>
    intro hstopped
    obtain ⟨formatter, cause⟩ := failure
    obtain ⟨-, rfl, rfl⟩ := Failure.runStopped.inj (Except.error.inj hstopped)
    exact h hfailure

/-- Formatting a file does not end because the setting could not be captured. -/
theorem formatFile_captured
    (hbench : ∀ settings, Action.Leads SameSettings (bench.formatters settings)) (p : Path)
    (e : Settings.WriteError) :
    ((formatFile bench file language).run s).1 ≠
      .error (.runStopped p none (.settingRefused e)) := by
  intro h
  rcases hprepared : (prepare bench file language).run s with ⟨e' | _ | ⟨host, d⟩, prepared⟩
  · rw [formatFile_eq, Attempt.run_bind_error hprepared] at h
    obtain rfl := Except.error.inj h
    exact prepare_failsOnly bench file language s _ (congrArg Prod.fst hprepared) trivial
  · rw [formatFile_eq, Attempt.run_bind_ok hprepared] at h
    exact absurd h (by simp)
  · have hcaptures := (hasLoaded_of_prepare hbench hprepared).captures host
    rw [(run_formatFile hprepared).1] at h
    have hran : runLanguageChain host prepared.documents.length (opened d prepared) =
        ((runLanguageChain host prepared.documents.length (opened d prepared)).1,
          (runLanguageChain host prepared.documents.length (opened d prepared)).2) := rfl
    rcases run_formatDocument_reports hran with
      ⟨e', ⟨-, -, hwrite⟩, hresult, -⟩ | ⟨-, hresult, -⟩
    · rw [hresult] at h
      obtain rfl := Except.error.inj h
      rcases Session.write_eq_error hwrite with hcause | ⟨cause, hcause⟩
      · exact absurd hcause (by simp)
      · exact absurd hcause (by simp)
    · exact verdict_captured (hcaptures.reported e) (hresult.symm.trans h)

/-- Formatting a text that comes in does not end because the setting could not be captured. -/
theorem formatInput_captured
    (hbench : ∀ settings, Action.Leads SameSettings (bench.formatters settings)) (p : Path)
    (e : Settings.WriteError) :
    ((formatInput bench file language).run s).1 ≠
      .error (.runStopped p none (.settingRefused e)) := by
  intro h
  rcases hprepared : (prepareInput bench file language).run s with
    ⟨e' | ⟨text, _ | ⟨host, d⟩⟩, prepared⟩
  · rw [formatInput_eq, Attempt.run_bind_error hprepared] at h
    obtain rfl := Except.error.inj h
    exact prepareInput_failsOnly bench file language s _ (congrArg Prod.fst hprepared) trivial
  · rw [run_formatInput_unknown hprepared] at h
    exact absurd h (by simp)
  · have hcaptures := (hasLoaded_of_prepareInput hbench hprepared).captures host
    rw [run_formatInput_known hprepared, run_withDocument] at h
    have hresult : ((formatAndOutput host prepared.documents.length).run (opened d prepared)).1 =
        verdict ((runLanguageChain host prepared.documents.length (opened d prepared)).2.document
            prepared.documents.length).path
          (runLanguageChain host prepared.documents.length (opened d prepared)).1 := by
      rw [formatAndOutput, Attempt.run_lift_bind, Attempt.run_lift_bind, Attempt.run_lift_bind,
        run_announce_eq]
      rfl
    exact verdict_captured (hcaptures.reported e) (hresult.symm.trans h)

/-- **Loading is all or nothing, and leaves a scope to write to.**  Loading settings files fails
with the fault of the first one that is there and cannot be read or holds no layer, and otherwise
finds the layers of all of them.  The program collapses over a fault, instead of telling it, just if
this is a number that is too large.  The run on a file or on a text that comes in, with the settings
that were loaded for it, can always take hold of the setting of its language: at the scope of the
directory around it if one with settings was found, and otherwise at that of the workspace.  So no
report says that it could not, and no formatting ends for this reason.  Only the search for
formatters has to leave the settings as they are. -/
theorem loading_captures
    (hbench : ∀ settings, Action.Leads SameSettings (bench.formatters settings)) (file : String)
    (language : Option String) (s : Session) :
    (∀ places result s', (Workspace.loadLayers places).run s = (result, s') →
      (∀ e, result = .error e ↔ FirstAtFault s.LoadFault places.toList e) ∧
      ((∃ e, result = .error e) ↔ ∃ file ∈ places.toList, ∃ e, s.LoadFault file e) ∧
      (∀ layers, result = .ok layers → Workspace.IsLoadedAs s places layers) ∧
      s'.app = s.app ∧
      (s'.collapsed = true ↔ s.collapsed = true ∨ ∃ scope path,
        FirstAtFault s.LoadFault places.toList
          (.settingsMalformed scope path .numberTooLarge))) ∧
    (∀ host d prepared, (prepare bench file language).run s = (.ok (some (host, d)), prepared) →
      Captures bench s host d prepared) ∧
    (∀ text host d prepared,
      (prepareInput bench file language).run s = (.ok (text, some (host, d)), prepared) →
      Captures bench s host d prepared) ∧
    ∀ path e,
      ((formatFile bench file language).run s).1 ≠
        .error (.runStopped path none (.settingRefused e)) ∧
      ((formatInput bench file language).run s).1 ≠
        .error (.runStopped path none (.settingRefused e)) := by
  refine ⟨fun places result s' hrun => ?_, fun host d prepared h => ?_,
    fun text host d prepared h => ?_, fun path e => ⟨?_, ?_⟩⟩
  · obtain ⟨found, said, hloaded, hsaid, herror, hlayers⟩ := Workspace.run_loadLayers_eq places s
    obtain ⟨rfl, rfl⟩ := Prod.mk.inj (hloaded.symm.trans hrun)
    obtain ⟨events, rfl⟩ := hsaid
    refine ⟨herror, ?_, hlayers, by rw [Session.app_collapsedBy], ?_⟩
    · simp only [herror, exists_firstAtFault_iff]
    · simp only [Session.collapsed_collapsedBy, herror]
  · exact (hasLoaded_of_prepare hbench h).captures host
  · exact (hasLoaded_of_prepareInput hbench h).captures host
  · exact formatFile_captured hbench path e
  · exact formatInput_captured hbench path e

/-- A number that is too large makes loading fail, and the program collapse; and a directory with
settings is where the formatters for its files are named. -/
theorem loading_captures_below_root :
    let root : Path := ⟨"/"⟩
    let bench := CommandLine.workbench root fun _ => pure ()
    let places : Places := ⟨none, Settings.settingsFile root, none⟩
    let overflow := "\x7b\"a\": 1e309\x7d"
    let broken : Session :=
      { disk := .ofFiles [(places.workspace, overflow)], outside := some {} }
    let whole : Session :=
      { disk := .ofFiles [(⟨"/src/.chainfmt/settings.json"⟩, "\x7b\x7d"), (⟨"/src/a.rs"⟩, "a")]
        outside := some {} }
    (∃ after, (Workspace.loadLayers places).run broken =
        (.error (.settingsMalformed .workspace places.workspace .numberTooLarge), after) ∧
      after.collapsed = true) ∧
    ∃ host d prepared slot,
      (prepare bench "src/a.rs" (some "rust")).run whole = (.ok (some (host, d)), prepared) ∧
      Slot.acquire prepared.app.settings d.language = .ok slot ∧ slot.scope = .workspaceFolder := by
  intro root bench places overflow broken whole
  have hbroken : broken.pathExists places.workspace = true ∧
      (broken.read places.workspace).toOption = some overflow ∧
      (Layer.parse overflow).map (fun _ => ()) = .error .numberTooLarge := by
    decide +kernel +revert
  have hsettings : (Workspace.discover root (some ⟨"/src/a.rs"⟩) whole).1.narrowest =
        .workspaceFolder ∧
      ((prepare bench "src/a.rs" (some "rust")).run whole).1.toOption.map
        (Option.map fun found => found.2.path) = some (some ⟨"/src/a.rs"⟩) := by
    clear hbroken
    decide +kernel +revert
  obtain ⟨hthere, htext, hparse⟩ := hbroken
  obtain ⟨hdiscovered, hwhole⟩ := hsettings
  have hbench := workbench_sameSettings root fun _ => pure ()
  have hfault : FirstAtFault broken.LoadFault places.toList
      (.settingsMalformed .workspace places.workspace .numberTooLarge) := by
    refine ⟨[], (.workspace, places.workspace), [], rfl, ?_, by simp⟩
    rcases hread : broken.read places.workspace with cause | text
    · rw [hread] at htext
      exact absurd htext (by simp [Except.toOption])
    · rw [hread] at htext
      obtain rfl := Option.some.inj htext
      rcases hlayer : Layer.parse overflow with cause | layer
      · rw [hlayer] at hparse
        obtain rfl := Except.error.inj hparse
        exact .malformed hthere hread hlayer
      · rw [hlayer] at hparse
        exact absurd hparse (by simp [Except.map])
  constructor
  · rcases hrun : (Workspace.loadLayers places).run broken with ⟨result, after⟩
    obtain ⟨herror, -, -, -, hcollapsed⟩ :=
      (loading_captures hbench "src/a.rs" (some "rust") broken).1 places result after hrun
    exact ⟨after, by rw [(herror _).2 hfault], hcollapsed.2 (.inr ⟨_, _, hfault⟩)⟩
  · rcases hprepared : (prepare bench "src/a.rs" (some "rust")).run whole with
      ⟨_ | _ | ⟨host, d⟩, prepared⟩
    · rw [hprepared] at hwhole
      exact absurd hwhole (by simp [Except.toOption])
    · rw [hprepared] at hwhole
      exact absurd hwhole (by simp [Except.toOption])
    · rw [hprepared] at hwhole
      have hpath : d.path = ⟨"/src/a.rs"⟩ := by simpa [Except.toOption] using hwhole
      obtain ⟨-, hcaptures, -⟩ := loading_captures hbench "src/a.rs" (some "rust") whole
      have hacquired := (hcaptures host d prepared hprepared).acquired
      refine ⟨host, d, prepared, _, rfl, hacquired, ?_⟩
      rw [Slot.at, hpath]
      exact hdiscovered

end Command

end FormatChain
