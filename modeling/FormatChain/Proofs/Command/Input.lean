import FormatChain.Proofs.Command.Reporting
import FormatChain.Proofs.Run.Passing
import FormatChain.Proofs.Run.Withholding

/-!
# The text that comes in

The text that comes in is the text of a document in memory.  Formatters on disk are left out, the
chain runs on the document, and its text is handed out in any case.  So nothing of the text is lost
however the run goes, and nothing else leaves the program.

* `Workbench.PassesOn` : formatters that are functions of texts, next to formatters on disk.
* `Registry.passOn` : what formatters make of a text, those on disk left out.
* `Workbench.withOnDisk` : other formatters on disk in the place of those there are.
* `Command.prepareInput` : all that goes before the chain of a text that comes in.
* `Command.formatInput_passes_on` : what is handed out, and how that ends.
-/

namespace FormatChain

open Settings (Places)
open Session (AllowsLoading MayCancel SameDeliveries WithEvents sameDeliveries_allowsWords)

variable {bench : Workbench} {registry : Registry} {g : String → TextFunction}

/-! ## Formatters -/

/-- With these settings the formatters are those of the registry. Those that do not work on disk are
functions of what they are told; those that do may be anything. Meanwhile the person may want to
stop. Nothing leaves the program by all this. -/
structure Workbench.PassesOn (bench : Workbench) (settings : Settings) (registry : Registry)
    (g : String → TextFunction) : Prop where
  found (s : Session) : (bench.formatters settings s).1 = registry
  finding : Action.OnlySays (bench.formatters settings)
  finding_delivers : Action.Leads SameDeliveries (bench.formatters settings)
  meanwhile (millis : Nat) : Action.Leads MayCancel (bench.meanwhile millis)
  meanwhile_delivers (millis : Nat) : Action.Leads SameDeliveries (bench.meanwhile millis)
  computes {id : String} {f : Formatter} (h : registry.get? id = some f)
    (hoff : f.onDisk = false) : f.Computes (g id)
  delivers {id : String} {f : Formatter} (h : registry.get? id = some f) (hoff : f.onDisk = false)
    (request : FormatRequest) : Attempt.Leads SameDeliveries (f.format request)

/-- What the formatters of the ids make of a text one after the other. Those that work on disk,
those that fail and those that there are not leave it as it is. -/
def Registry.passOn (registry : Registry) (g : String → TextFunction) (p : Path) (language : String)
    (ids : List String) (text : String) : String :=
  ids.foldl
    (fun text id => match registry.get? id with
      | some f => if f.onDisk then text else Host.textAfter text (g id ⟨p, language, text⟩)
      | none => text) text

/-- The formatter, unless it works on disk: then one that does something else. -/
def Formatter.orOnDisk (others : String → FormatRequest → Attempt FormatOutput) (f : Formatter) :
    Formatter :=
  if f.onDisk then { f with format := others f.id } else f

/-- The workbench with other formatters on disk. -/
def Workbench.withOnDisk (bench : Workbench)
    (others : String → FormatRequest → Attempt FormatOutput) : Workbench where
  root := bench.root
  formatters settings := do return (← bench.formatters settings).map (Formatter.orOnDisk others)
  meanwhile := bench.meanwhile

/-- The editor for a text that comes in. -/
def Workbench.offDisk (bench : Workbench) (registry : Registry) : Host :=
  ⟨registry.withoutDisk.2, bench.meanwhile⟩

theorem Workbench.foldText_offDisk (bench : Workbench) (registry : Registry)
    (g : String → TextFunction) (p : Path) (language : String) (ids : List String) (text : String) :
    (bench.offDisk registry).foldText g p language ids text =
      registry.passOn g p language ids text := by
  have hstep : ∀ text id, Host.textAfter text
      ((bench.offDisk registry).outcome g id ⟨p, language, text⟩) =
        match registry.get? id with
        | some f => if f.onDisk then text else Host.textAfter text (g id ⟨p, language, text⟩)
        | none => text := by
    intro text id
    rw [Host.outcome, offDisk, Registry.get?_withoutDisk]
    cases registry.get? id with
    | none => rfl
    | some f =>
      cases hdisk : f.onDisk with
      | true => simp [Option.filter, hdisk, Host.textAfter]
      | false => simp [Option.filter, hdisk]
  simp only [Host.foldText, Registry.passOn, hstep]

theorem Registry.withoutDisk_orOnDisk (others : String → FormatRequest → Attempt FormatOutput)
    (r : Registry) : (r.map (Formatter.orOnDisk others)).withoutDisk = r.withoutDisk := by
  refine withoutDisk_map (fun f => ?_) (fun f hoff => ?_) r
  · unfold Formatter.orOnDisk
    split
    · rfl
    · rfl
  · rw [Formatter.orOnDisk, hoff]
    rfl

theorem Workbench.get?_offDisk {id : String} {f : Formatter}
    (h : (bench.offDisk registry).formatters.get? id = some f) :
    registry.get? id = some f ∧ f.onDisk = false := by
  have hkept := (Registry.get?_withoutDisk registry id).symm.trans h
  simpa using Option.filter_eq_some_iff.1 hkept

/-- Where nothing but words and the wish to stop is added, nothing leaves the program. -/
theorem Session.MayCancel.withholds {s s' : Session} {n : Nat} (h : MayCancel s s')
    (hsame : SameDeliveries s s') : Withholds n s s' := by
  obtain ⟨events, cancelled, rfl⟩ := h
  exact fun hmemory => ⟨hmemory, rfl, rfl, hsame⟩

namespace Workbench.PassesOn

variable {settings : Settings} (h : bench.PassesOn settings registry g)
include h

theorem offDisk_computes : (bench.offDisk registry).Computes g := by
  intro id f hfound
  obtain ⟨hget, hoff⟩ := get?_offDisk hfound
  exact h.computes hget hoff

theorem idles : (bench.offDisk registry).Idles MayCancel :=
  ⟨fun _ _ hsaid => hsaid.mayCancel, h.meanwhile⟩

theorem withholds (n : Nat) : (bench.offDisk registry).Withholds n where
  meanwhile millis s := (h.meanwhile millis s).withholds (h.meanwhile_delivers millis s)
  format {id f} hfound request s := by
    obtain ⟨hget, hoff⟩ := get?_offDisk hfound
    exact ((h.computes hget hoff).onlySays request s).mayCancel.withholds
      (h.delivers hget hoff request s)

end Workbench.PassesOn

namespace Command

variable {file : String} {language : Option String} {host : Host} {d : Document}
  {s loaded : Session}

/-! ## Before the chain -/

/-- The text, and the editor for it with its document unless it has no language. -/
def receive (bench : Workbench) (given : Option String) (path : Path) (text : String)
    (settings : Settings) : Attempt (String × Option (Host × Document)) := do
  match ← languageOf settings path given with
  | none => return (text, none)
  | some language =>
    Action.setSettings settings
    let (removed, formatters) := (← bench.formatters settings).withoutDisk
    removed.forM fun id =>
      Action.warn
        s!"Formatter '{id}' formats files on disk and can't be used when formatting stdin."
    return (text, some (⟨formatters, bench.meanwhile⟩, ⟨path, language, text, none, .memory, 1⟩))

/-- All that goes before the chain of a text that comes in. -/
def prepareInput (bench : Workbench) (file : String) (language : Option String) :
    Attempt (String × Option (Host × Document)) := do
  let path ← Workspace.resolvePath file
  let text ← Attempt.takeInput
  let (settings, _) ← Workspace.loadSettings bench.root (some path)
  receive bench language path text settings

/-- **A text that comes in is prepared,** and then handed out as it is or worked on. -/
theorem formatInput_eq (bench : Workbench) (file : String) (language : Option String) :
    formatInput bench file language = (do
      match ← prepareInput bench file language with
      | (text, none) => Action.record (.output text)
      | (_, some (host, d)) => withDocument d (formatAndOutput host)) := by
  simp only [formatInput, prepareInput, receive, bind_assoc]
  refine bind_congr fun path => bind_congr fun text => bind_congr fun loaded =>
    bind_congr fun found => ?_
  cases found with
  | none => simp only [pure_bind]
  | some language => simp only [bind_assoc, pure_bind]

theorem run_formatInput_unknown {text : String} {prepared : Session}
    (h : (prepareInput bench file language).run s = (.ok (text, none), prepared)) :
    (formatInput bench file language).run s =
      (.ok (), (Action.record (.output text) prepared).2) := by
  rw [formatInput_eq, Attempt.run_bind_ok h]
  rfl

theorem run_formatInput_known {text : String} {prepared : Session}
    (h : (prepareInput bench file language).run s = (.ok (text, some (host, d)), prepared)) :
    (formatInput bench file language).run s =
      (withDocument d (formatAndOutput host)).run prepared := by
  rw [formatInput_eq, Attempt.run_bind_ok h]

theorem run_takeInput {text : String} (h : s.input = some text) :
    Attempt.takeInput.run s = (.ok text, { s with input := none }) := by
  rw [Attempt.takeInput, Attempt.run_bind_ok (Attempt.run_get s), h]
  rfl

/-- Receiving a text does not fail, leaves out the formatters on disk, and neither writes nor hands
out anything. -/
theorem run_receive {settings : Settings} (hbench : bench.PassesOn settings registry g)
    (given : Option String) (path : Path) (text : String) (s : Session) :
    let received := (receive bench given path text settings).run s
    received.1 = .ok (text, (languageOf settings path given s).1.map fun language =>
        (bench.offDisk registry, ⟨path, language, text, none, .memory, 1⟩)) ∧
      ((languageOf settings path given s).1.isSome → received.2.app.settings = settings) ∧
      received.2.disk = s.disk ∧ received.2.outside = s.outside ∧ SameDeliveries s received.2 := by
  intro received
  have hwords := sameDeliveries_allowsWords
  have hsaid := languageOf_onlySays settings path given s
  have hasked := languageOf_leads hwords settings path given s
  have hreceived : received = (receive bench given path text settings).run s := rfl
  rw [receive, Attempt.run_lift_bind] at hreceived
  rcases hfound : languageOf settings path given s with ⟨_ | language, asked⟩
  · rw [hfound] at hsaid hasked hreceived
    rw [hreceived]
    exact ⟨rfl, fun h => absurd h (by simp), hsaid.disk, hsaid.outside, hasked⟩
  · rw [hfound] at hsaid hasked hreceived
    simp only [Attempt.run_lift_bind, hbench.found] at hreceived
    rw [Attempt.run_bind_ok (run_forM_lift _ _ _), Attempt.run_pure] at hreceived
    have hset : SameDeliveries s (Action.setSettings settings asked).2 := hasked
    have hfinding := hbench.finding (Action.setSettings settings asked).2
    have hwarning := (Action.Leads.forM (fun id : String => Action.warn_onlySays
      s!"Formatter '{id}' formats files on disk and can't be used when formatting stdin.")
      registry.withoutDisk.1).after hfinding
    have hfound := hbench.finding_delivers.after hset
    have hwarned := (Action.Leads.forM (fun id : String => hwords.warn
      s!"Formatter '{id}' formats files on disk and can't be used when formatting stdin.")
      registry.withoutDisk.1).after hfound
    rw [hreceived]
    exact ⟨rfl, fun _ => congrArg App.settings hwarning.app, hwarning.disk.trans hsaid.disk,
      hwarning.outside.trans hsaid.outside, hwarned⟩

/-- What preparing a text comes to once the text was taken and the settings were loaded: it does not
fail, and neither writes nor hands out anything. -/
theorem run_prepareInput (language : Option String) {settings : Settings} {places : Places}
    {text : String} (hbench : bench.PassesOn settings registry g) (hinput : s.input = some text)
    (hload : (Workspace.loadSettings bench.root (some (s.cwd.join ⟨file⟩))).run
      { s with input := none } = (.ok (settings, places), loaded)) :
    let path := s.cwd.join ⟨file⟩
    let known := (languageOf settings path language loaded).1
    let prepared := (prepareInput bench file language).run s
    prepared.1 = .ok (text, known.map fun language =>
        (bench.offDisk registry, ⟨path, language, text, none, .memory, 1⟩)) ∧
      (known.isSome → prepared.2.app.settings = settings) ∧
      prepared.2.disk = s.disk ∧ prepared.2.outside = s.outside ∧ SameDeliveries s prepared.2 := by
  intro path known prepared
  have hwords := sameDeliveries_allowsWords
  obtain ⟨hdisk, houtside⟩ : loaded.disk = s.disk ∧ loaded.outside = s.outside := by
    have hloaded := Workspace.loadSettings_setsUp bench.root (some path) { s with input := none }
    rw [hload] at hloaded
    obtain ⟨_, _, _, _, rfl⟩ := hloaded
    exact ⟨rfl, rfl⟩
  have hloaded : SameDeliveries s loaded := by
    have hallows : AllowsLoading SameDeliveries :=
      { hwords with collapsed := fun _ => rfl, verbose := fun _ => rfl }
    have h := Workspace.loadSettings_leads hallows bench.root (some path) { s with input := none }
    rw [hload] at h
    exact h
  have hprepared : prepared = (receive bench language path text settings).run loaded := by
    change (prepareInput bench file language).run s = _
    rw [prepareInput, Attempt.run_lift_bind]
    change (Attempt.takeInput >>= fun text =>
      Workspace.loadSettings bench.root (some path) >>= fun loaded =>
        receive bench language path text loaded.1).run s = _
    rw [Attempt.run_bind_ok (run_takeInput hinput), Attempt.run_bind_ok hload]
  obtain ⟨hvalue, hset, hsame, houtside', hdelivered⟩ :=
    run_receive hbench language path text loaded
  rw [hprepared]
  exact ⟨hvalue, hset, hsame.trans hdisk, houtside'.trans houtside,
    IsTrans.trans _ _ _ hloaded hdelivered⟩

/-! ## The chain -/

theorem runLanguageChain_withholds {n : Nat} (h : host.Withholds n) :
    Action.Leads (Session.Withholds n) (runLanguageChain host n) := by
  have hwords := Session.withholds_allowsWords n
  refine Action.Leads.bind (fun s => refl s) fun settings => ?_
  refine Action.Leads.bind (fun s => refl s) fun d => ?_
  refine (hwords.tell _).bind fun chain => (hwords.tell _).bind fun options => ?_
  exact h.run chain options

/-- What the chain makes of a text in memory is handed out, whatever the run came to, and nothing
else is. -/
theorem run_formatAndOutput {n : Nat} {p : Path} {l text : String} (hcomputes : host.Computes g)
    (hidles : host.Idles MayCancel) (hwithholds : host.Withholds n)
    (hcarries : s.Carries n p l text) :
    let report := (runLanguageChain host n s).1
    let worked := (formatAndOutput host n).run s
    report.ids <+: (resolveChain s.app.settings l).value.ids ∧
      worked.1 = verdict p report ∧ worked.2.disk = s.disk ∧ worked.2.outside = s.outside ∧
      worked.2.deliveries =
        s.deliveries ++ [.output (host.foldText g p l report.ids text)] := by
  intro report worked
  obtain ⟨told, htold, hran⟩ := runLanguageChain_eq host n s
  obtain ⟨-, hdisk, houtside, hsame⟩ := runLanguageChain_withholds hwithholds s hcarries.inMemory
  obtain ⟨hbegins, hpassed⟩ := Host.run_passes hcomputes hidles
    (resolveChain s.app.settings (s.document n).language).value
    (resolveRunOptions s.app.settings (s.document n).language).value
    (hcarries.of_document_eq (htold.document n))
  rw [← hran] at hbegins hpassed
  rw [hcarries.language] at hbegins
  have hworked : worked = (announce p report).run (Action.record
      (.output (host.foldText g p l report.ids text)) (runLanguageChain host n s).2).2 := by
    change (formatAndOutput host n).run s = _
    rw [formatAndOutput, Attempt.run_lift_bind, Attempt.run_lift_bind, Attempt.run_lift_bind,
      Action.document_apply, hpassed.text, hpassed.path]
  have hannounced := announce_onlySays p report (Action.record
    (.output (host.foldText g p l report.ids text)) (runLanguageChain host n s).2).2
  have hquiet := announce_leads sameDeliveries_allowsWords p report (Action.record
    (.output (host.foldText g p l report.ids text)) (runLanguageChain host n s).2).2
  rw [← hworked] at hannounced hquiet
  refine ⟨hbegins, ?_, hannounced.disk.trans hdisk, hannounced.outside.trans houtside, ?_⟩
  · rw [hworked, run_announce_eq]
  · rw [hquiet, Session.deliveries_record, hsame]
    rfl

/-- That a document is closed after the work on it does not matter to anything outside. -/
theorem withDocument_closes (d : Document) (work : Nat → Attempt Unit) (s : Session) :
    let worked := (work s.documents.length).run (opened d s)
    let closed := (withDocument d work).run s
    closed.1 = worked.1 ∧ closed.2.disk = worked.2.disk ∧ closed.2.outside = worked.2.outside ∧
      closed.2.deliveries = worked.2.deliveries := ⟨rfl, rfl, rfl, rfl⟩

/-- Formatters on disk are not asked for anything: with any others in their place all goes the same
way. -/
theorem formatInput_withOnDisk (bench : Workbench) (file : String) (language : Option String)
    (others : String → FormatRequest → Attempt FormatOutput) :
    formatInput (bench.withOnDisk others) file language = formatInput bench file language := by
  unfold formatInput
  refine bind_congr fun path => bind_congr fun text => bind_congr fun loaded =>
    bind_congr fun found => ?_
  cases found with
  | none => rfl
  | some language =>
    refine bind_congr fun _ => ExceptT.ext (funext fun s => ?_)
    have hfound : (bench.withOnDisk others).formatters loaded.1 s =
        ((bench.formatters loaded.1 s).1.map (Formatter.orOnDisk others),
          (bench.formatters loaded.1 s).2) := rfl
    rw [Attempt.run_lift_bind, Attempt.run_lift_bind, hfound, Registry.withoutDisk_orOnDisk]
    rfl

/-- **Nothing of a text that comes in is lost, and nothing else gets out.**  Once the text was taken
and the settings were loaded, one text is handed out in any case, and no file is written.  Without a
language it is the text that came in.  With one it is what the formatters of the chain made of it
that had their steps, in whatever state the run ended: those on disk, which nobody asks for
anything, those that fail and those that there are not leave it as it is.  Only the failure that
ended the run is told afterwards. -/
theorem formatInput_passes_on (language : Option String) {settings : Settings} {places : Places}
    {text : String} (hbench : bench.PassesOn settings registry g) (hinput : s.input = some text)
    (hload : (Workspace.loadSettings bench.root (some (s.cwd.join ⟨file⟩))).run
      { s with input := none } = (.ok (settings, places), loaded)) :
    let path := s.cwd.join ⟨file⟩
    let prepared := (prepareInput bench file language).run s
    let result := (formatInput bench file language).run s
    result.2.disk = s.disk ∧ result.2.outside = s.outside ∧
      (∀ others, (formatInput (bench.withOnDisk others) file language).run s = result) ∧
      match (languageOf settings path language loaded).1 with
      | none => result.1 = .ok () ∧ result.2.deliveries = s.deliveries ++ [.output text]
      | some l =>
        let host := bench.offDisk registry
        let d : Document := ⟨path, l, text, none, .memory, 1⟩
        let report := (runLanguageChain host prepared.2.documents.length (opened d prepared.2)).1
        prepared.1 = .ok (text, some (host, d)) ∧
          report.ids <+: (resolveChain settings l).value.ids ∧
          result.1 = verdict path report ∧
          result.2.deliveries =
            s.deliveries ++ [.output (registry.passOn g path l report.ids text)] := by
  intro path prepared result
  obtain ⟨hvalue, hset, hdisk, houtside, hdelivered⟩ :=
    run_prepareInput language hbench hinput hload
  have hsame : ∀ others, (formatInput (bench.withOnDisk others) file language).run s = result :=
    fun others => congrArg (fun x => x.run s) (formatInput_withOnDisk bench file language others)
  cases hknown : (languageOf settings path language loaded).1 with
  | none =>
    rw [hknown] at hvalue
    have hended : result = (.ok (), (Action.record (.output text) prepared.2).2) :=
      run_formatInput_unknown (Prod.ext hvalue rfl)
    have htold : result.2.deliveries = s.deliveries ++ [.output text] := by
      rw [hended, Session.deliveries_record, hdelivered]
      rfl
    refine ⟨?_, ?_, hsame, ?_, htold⟩
    · rw [hended]
      exact hdisk
    · rw [hended]
      exact houtside
    · rw [hended]
  | some l =>
    have hset : prepared.2.app.settings = settings := hset (by rw [hknown]; rfl)
    rw [hknown] at hvalue
    let d : Document := ⟨path, l, text, none, .memory, 1⟩
    have hended : result =
        (withDocument d (formatAndOutput (bench.offDisk registry))).run prepared.2 :=
      run_formatInput_known (Prod.ext hvalue rfl)
    have hcarries : (opened d prepared.2).Carries prepared.2.documents.length path l text := by
      have hopened := opened_document d prepared.2
      exact ⟨congrArg Document.path hopened, congrArg Document.language hopened,
        congrArg Document.text hopened, congrArg Document.target hopened⟩
    obtain ⟨hbegins, hverdict, hkept, houtside', htold⟩ := run_formatAndOutput
      hbench.offDisk_computes hbench.idles (hbench.withholds _) hcarries
    have hbefore : (opened d prepared.2).deliveries = s.deliveries := hdelivered
    rw [bench.foldText_offDisk, hbefore] at htold
    have hchain : (opened d prepared.2).app.settings = settings := hset
    rw [hchain] at hbegins
    obtain ⟨hresult, hclosed, hclosed', hcounted⟩ := withDocument_closes d
      (formatAndOutput (bench.offDisk registry)) prepared.2
    rw [← hended] at hresult hclosed hclosed' hcounted
    exact ⟨hclosed.trans (hkept.trans hdisk), hclosed'.trans (houtside'.trans houtside), hsame,
      hvalue, hbegins, hresult.trans hverdict, hcounted.trans htold⟩

/-- Formatters that work on disk, or that there are not, leave a text to those around them. -/
theorem formatInput_passes_on_around_missing :
    let append : TextFunction := fun request => .ok (some (request.text ++ "!"))
    let check : Formatter := ⟨"check", true, fun _ => pure .fileUpdated⟩
    let formatters : Registry := .ofFormatters [.ofFunction "append" append, check]
    let bench : Workbench := ⟨⟨"/"⟩, fun _ => pure formatters, fun _ => pure ()⟩
    let chain :=
      "\x7b\"chainfmt.formatters\": [\"append\", \"check\", \"missing\", \"append\"]\x7d"
    let s : Session :=
      { disk := .ofFiles [(⟨"/.chainfmt/settings.json"⟩, chain)]
        outside := some {}
        input := some "a" }
    let result := (formatInput bench "a.rs" (some "rust")).run s
    result.2.disk = s.disk ∧ result.2.deliveries = [.output "a!!"] ∧
      ∃ report, report.ids = ["append", "check", "missing", "append"] ∧
        result.1 = verdict (s.cwd.join ⟨"a.rs"⟩) report := by
  intro append check formatters bench chain s
  have honly {id : String} {f : Formatter} (hfound : formatters.get? id = some f)
      (hoff : f.onDisk = false) : f = .ofFunction "append" append := by
    rcases List.mem_cons.1 (Registry.mem_of_get? hfound) with h | h
    · exact h
    · rw [List.mem_singleton.1 h] at hoff
      exact absurd hoff (by simp [check])
  have hbench : ∀ settings, bench.PassesOn settings formatters fun _ => append := fun settings =>
    { found := fun _ => rfl
      finding := Action.leads_pure _
      finding_delivers := Action.leads_pure _
      meanwhile := fun _ => Action.leads_pure _
      meanwhile_delivers := fun _ => Action.leads_pure _
      computes := fun hfound hoff => by
        rw [honly hfound hoff]
        exact Formatter.ofFunction_computes _ _
      delivers := fun hfound hoff => by
        rw [honly hfound hoff]
        exact fun _ _ => rfl }
  have hloads : ((Workspace.loadSettings bench.root (some (s.cwd.join ⟨"a.rs"⟩))).run
      { s with input := none }).1.toOption.isSome = true := by
    clear honly hbench
    decide +kernel +revert
  rcases hload : (Workspace.loadSettings bench.root (some (s.cwd.join ⟨"a.rs"⟩))).run
    { s with input := none } with ⟨_ | ⟨settings, places⟩, loaded⟩
  · rw [hload] at hloads
    exact absurd hloads (by simp [Except.toOption])
  obtain ⟨hdisk, -, -, -, -, hverdict, htold⟩ :=
    formatInput_passes_on (some "rust") (hbench settings) rfl hload
  have hids : (runLanguageChain (bench.offDisk formatters)
      ((prepareInput bench "a.rs" (some "rust")).run s).2.documents.length
      (opened ⟨s.cwd.join ⟨"a.rs"⟩, "rust", "a", none, .memory, 1⟩
        ((prepareInput bench "a.rs" (some "rust")).run s).2)).1.ids =
      ["append", "check", "missing", "append"] := by
    clear honly hbench hloads hload hdisk hverdict htold
    decide +kernel +revert
  rw [hids] at htold
  exact ⟨hdisk, htold, _, hids, hverdict⟩

end Command

end FormatChain
