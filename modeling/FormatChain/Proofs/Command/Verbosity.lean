import FormatChain.CommandLine.Process
import FormatChain.Proofs.Command.Reporting
import FormatChain.Proofs.Run.Lockstep
import FormatChain.Proofs.Session.Verbosity

/-!
# Formatting with and without remarks

Whether remarks for debugging are made is nobody's business but the log's: files and texts that come
in are formatted alike with and without them, although loading settings may start to make them.

* `Workbench.IgnoresVerbosity` : formatters, and what goes on meanwhile, do not look whether remarks
  are made.
* `Workbench.recording` : formatters that leave an event behind for everything they are asked.
* `CommandLine.workbench_ignoresVerbosity` : neither do formatters that run commands.
* `Host.Matches.runWith_sameButRemarks` : runs match whether or not remarks are made.
* `Command.format_sameButRemarks` : formatting a file, or a text that comes in, comes to the same.
-/

namespace FormatChain

open Session (SameButRemarks sameButRemarks_congruence)

/-! ## What does not look at remarks -/

/-- The formatter does the same whether or not remarks are made. -/
def Formatter.IgnoresVerbosity (f : Formatter) : Prop :=
  ∀ request, Attempt.Matches SameButRemarks (f.format request) (f.format request)

/-- The formatters that settings bring along do the same whether or not remarks are made, and so
does finding them and what goes on meanwhile. -/
structure Workbench.IgnoresVerbosity (bench : Workbench) : Prop where
  meanwhile (millis : Nat) : Action.Matches SameButRemarks (bench.meanwhile millis)
    (bench.meanwhile millis)
  formatters (settings : Settings) : Action.Matches SameButRemarks (bench.formatters settings)
    (bench.formatters settings)
  format {settings : Settings} {s : Session} {id : String} {f : Formatter}
    (h : (bench.formatters settings s).1.get? id = some f) : f.IgnoresVerbosity

/-! ### Recorded requests -/

/-- The formatter, which leaves an event behind when it is asked. -/
def Formatter.recording (f : Formatter) : Formatter where
  id := f.id
  onDisk := f.onDisk
  format request := do
    Action.record (.formatted f.id request)
    f.format request

/-- The workbench with formatters that leave events behind when they are asked. -/
def Workbench.recording (bench : Workbench) : Workbench where
  root := bench.root
  formatters settings := do return (← bench.formatters settings).map Formatter.recording
  meanwhile := bench.meanwhile

theorem Formatter.IgnoresVerbosity.recording {f : Formatter} (h : f.IgnoresVerbosity) :
    f.recording.IgnoresVerbosity := fun request =>
  (Attempt.matches_lift (sameButRemarks_congruence.matches_record _)).bind fun _ => h request

/-- Who records what formatters are asked does not look whether remarks are made either. -/
theorem Workbench.IgnoresVerbosity.recording {bench : Workbench} (h : bench.IgnoresVerbosity) :
    bench.recording.IgnoresVerbosity where
  meanwhile := h.meanwhile
  formatters settings := (h.formatters settings).bind fun _ => Action.matches_pure _
  format {settings s id f} hfound := by
    have hget : ((bench.formatters settings s).1.get? id).map Formatter.recording = some f :=
      (Registry.get?_map _ _ id).symm.trans hfound
    obtain ⟨f, hbefore, rfl⟩ := Option.map_eq_some_iff.1 hget
    exact (h.format hbefore).recording

/-! ### Formatters that run commands -/

theorem FormatterCommand.toFormatter_ignoresVerbosity (c : FormatterCommand) (id : String) :
    (c.toFormatter id).IgnoresVerbosity := by
  intro request
  have hR := sameButRemarks_congruence
  refine Attempt.matches_get_bind fun s t h => ?_
  have hvars : t.vars = s.vars := congrArg (fun s => s.vars) h
  rw [hR.outside h, hR.disk h, hR.cwd h, hvars]
  split
  · exact Attempt.matches_throw _
  · next status world _ =>
    let after (s : Session) : Session :=
      if s.inMemory then { s with outside := some world.disk } else { s with disk := world.disk }
    have hafter : ∀ s : Session, (after s).quiet = after s.quiet := by
      intro s
      have hkept : s.quiet.inMemory = s.inMemory := rfl
      simp only [after, hkept]
      split
      · rfl
      · rfl
    exact (Attempt.matches_lift (Action.matches_modify fun _ _ h => h.map after hafter)).bind
      fun _ => Attempt.matches_mk_pure _

theorem Registry.addCommand_ignoresVerbosity {r : Registry} {name : String} {c : FormatterCommand}
    (h : ∀ id f, r.get? id = some f → f.IgnoresVerbosity) (id : String) (f : Formatter)
    (hfound : (r.addCommand name c).value.get? id = some f) : f.IgnoresVerbosity := by
  unfold addCommand at hfound
  split at hfound
  · exact h id f hfound
  · rw [Registry.add, OrderedMap.get?_set] at hfound
    split at hfound
    · obtain rfl := Option.some.inj hfound
      exact c.toFormatter_ignoresVerbosity name
    · exact h id f hfound

/-- The formatters that settings name do not look whether remarks are made. -/
theorem Registry.ofSettings_ignoresVerbosity (settings : Settings) (id : String) (f : Formatter)
    (hfound : (ofSettings settings).value.get? id = some f) : f.IgnoresVerbosity := by
  have hadded : ∀ (commands : List (String × FormatterCommand)) (r : Registry),
      (∀ id f, r.get? id = some f → f.IgnoresVerbosity) → ∀ id f,
        (commands.foldlM (fun r (id, command) => addCommand r id command) r).value.get? id =
          some f →
          f.IgnoresVerbosity := by
    intro commands
    induction commands with
    | nil => exact fun r h => h
    | cons command rest ih =>
      intro r h id f hfound
      rw [List.foldlM_cons, Noted.value_bind] at hfound
      exact ih _ (addCommand_ignoresVerbosity h) id f hfound
  have hempty : ∀ id f, (OrderedMap.empty : Registry).get? id = some f → f.IgnoresVerbosity := by
    intro id f h
    rw [OrderedMap.get?_empty] at h
    cases h
  unfold ofSettings at hfound
  split at hfound
  · exact hempty id f hfound
  · exact hadded _ .empty hempty id f hfound

/-- **The program itself does not look whether remarks are made** when it formats. -/
theorem CommandLine.workbench_ignoresVerbosity (root : Path) {meanwhile : Nat → Action Unit}
    (h : ∀ millis, Action.Matches SameButRemarks (meanwhile millis) (meanwhile millis)) :
    (workbench root meanwhile).IgnoresVerbosity where
  meanwhile := h
  formatters _ := sameButRemarks_congruence.matches_tell _
  format hfound := Registry.ofSettings_ignoresVerbosity _ _ _ hfound

/-! ## Runs -/

/-- An editor matches itself if its formatters and what goes on meanwhile do. -/
theorem Host.matches_of_ignoresVerbosity {host : Host}
    (hmeanwhile : ∀ millis, Action.Matches SameButRemarks (host.meanwhile millis)
      (host.meanwhile millis))
    (hformat : ∀ id f, host.formatters.get? id = some f → f.IgnoresVerbosity) :
    host.Matches SameButRemarks host where
  meanwhile := hmeanwhile
  formatters id := by
    cases hfound : host.formatters.get? id with
    | none => exact .none
    | some f => exact .some ⟨rfl, rfl, hformat id f hfound⟩

/-- **Runs match whether or not remarks are made.** -/
theorem Host.Matches.runWith_sameButRemarks {host : Host} (h : host.Matches SameButRemarks host)
    {confirm : Confirmer} (hconfirm : Confirmer.Matches SameButRemarks confirm confirm)
    (n : Nat) (chain : Chain) (options : RunOptions) :
    Action.Matches SameButRemarks (host.runWith confirm n chain options)
      (host.runWith confirm n chain options) := by
  intro s t hst
  cases hheld : s.app.guard.held with
  | true =>
    rw [runWith_held host confirm n chain options hheld,
      runWith_held host confirm n chain options (hst.guard ▸ hheld)]
    exact ⟨rfl, sameButRemarks_congruence.remark _ _ hst⟩
  | false =>
    have hcourse : (courseOf confirm n chain options).Matches SameButRemarks
        (courseOf confirm n chain options) := ⟨rfl, rfl, hconfirm⟩
    obtain ⟨hreport, hran⟩ :=
      h.runIfNeeded sameButRemarks_congruence hcourse chain _ _ (hst.setGuard ⟨true⟩)
    rw [runWith_of_free hheld, runWith_of_free (hst.guard ▸ hheld)]
    exact ⟨hreport, hran.setGuard ⟨false⟩⟩

/-! ## Commands -/

namespace Command

variable {bench : Workbench} {host : Host}

theorem languageOf_sameButRemarks (settings : Settings) (path : Path) (given : Option String) :
    Action.Matches SameButRemarks (languageOf settings path given)
      (languageOf settings path given) := by
  have hR := sameButRemarks_congruence
  cases given with
  | some language => exact Action.matches_pure _
  | none =>
    refine (hR.matches_tell _).bind fun found => ?_
    refine Action.Matches.ite ?_ (Action.matches_pure _)
    exact (hR.matches_notify _ _).bind fun _ => Action.matches_pure _

theorem announce_sameButRemarks (path : Path) (report : RunReport) :
    Attempt.Matches SameButRemarks (announce path report) (announce path report) := by
  have hR := sameButRemarks_congruence
  have hrun :
      Action.Matches SameButRemarks (remarkOnRun path report) (remarkOnRun path report) := by
    refine (Action.Matches.forM (fun _ => hR.matches_debug _ _) _).bind fun _ => ?_
    refine (Action.Matches.forM (fun _ => hR.matches_notify _ _) _).bind fun _ => ?_
    exact Action.Matches.ite (hR.matches_notify _ _) (Action.matches_pure _)
  have hend :
      Action.Matches SameButRemarks (remarkOnEnd path report) (remarkOnEnd path report) := by
    unfold remarkOnEnd
    split
    · exact hR.matches_notify _ _
    · split
      · exact hR.matches_notify _ _
      · exact Action.matches_pure _
  intro s t h
  rw [run_announce_eq, run_announce_eq]
  exact ⟨rfl, (hend _ _ (hrun s t h).2).2⟩

theorem withDocument_sameButRemarks (d : Document) {work : Nat → Attempt Unit}
    (h : ∀ n, Attempt.Matches SameButRemarks (work n) (work n)) :
    Attempt.Matches SameButRemarks (withDocument d work) (withDocument d work) := by
  have hopen : Action.Matches SameButRemarks (openDocument d) (openDocument d) := by
    refine Action.matches_get_bind fun s t hst => ?_
    rw [sameButRemarks_congruence.documents hst]
    have hput : Action.Matches SameButRemarks
        (modify fun u => u.putDocument s.documents.length d)
        (modify fun u => u.putDocument s.documents.length d) :=
      Action.matches_modify fun _ _ h =>
        h.map (fun u => u.putDocument s.documents.length d) fun _ => rfl
    exact hput.bind fun _ => Action.matches_pure _
  have hclose : ∀ n, Action.Matches SameButRemarks (closeDocuments n) (closeDocuments n) :=
    fun n => Action.matches_modify fun _ _ h =>
      h.map (fun u => { u with documents := u.documents.take n }) fun _ => rfl
  refine hopen.bind fun n => Action.Matches.bind (h n) fun result => ?_
  exact (hclose n).bind fun _ => Action.matches_pure _

theorem runLanguageChain_sameButRemarks (h : host.Matches SameButRemarks host) (n : Nat) :
    Action.Matches SameButRemarks (runLanguageChain host n) (runLanguageChain host n) := by
  have hR := sameButRemarks_congruence
  refine hR.matches_settings.bind fun settings => (hR.matches_document n).bind fun d => ?_
  refine (hR.matches_tell _).bind fun chain => (hR.matches_tell _).bind fun options => ?_
  exact h.runWith_sameButRemarks (h.poll hR) n chain options

theorem formatDocument_sameButRemarks (h : host.Matches SameButRemarks host) (n : Nat) :
    Attempt.Matches SameButRemarks (formatDocument host n) (formatDocument host n) := by
  have hR := sameButRemarks_congruence
  refine (Attempt.matches_lift (runLanguageChain_sameButRemarks h n)).bind fun report => ?_
  refine (Attempt.matches_lift (hR.matches_document n)).bind fun d => ?_
  have hannounce := announce_sameButRemarks d.path report
  split
  · split
    · exact (Host.saveDocument_matches hR n).bind fun _ => hannounce
    · exact hannounce
  · exact hannounce

theorem formatAndOutput_sameButRemarks (h : host.Matches SameButRemarks host) (n : Nat) :
    Attempt.Matches SameButRemarks (formatAndOutput host n) (formatAndOutput host n) := by
  have hR := sameButRemarks_congruence
  refine (Attempt.matches_lift (runLanguageChain_sameButRemarks h n)).bind fun report => ?_
  refine (Attempt.matches_lift (hR.matches_document n)).bind fun d => ?_
  refine (Attempt.matches_lift (hR.matches_record _)).bind fun _ => ?_
  exact announce_sameButRemarks d.path report

/-- The document of a file is worked on alike by formatters that do not look at remarks. -/
theorem finding_sameButRemarks (h : bench.IgnoresVerbosity) (settings : Settings)
    {work : Registry → Attempt Unit}
    (hwork : ∀ r : Registry, (∀ id f, r.get? id = some f → f.IgnoresVerbosity) →
      Attempt.Matches SameButRemarks (work r) (work r)) :
    Attempt.Matches SameButRemarks (do work (← bench.formatters settings))
      (do work (← bench.formatters settings)) :=
  Action.Matches.bind_found (h.formatters settings) fun s =>
    hwork (bench.formatters settings s).1 fun _ _ hfound => h.format hfound

theorem formatFile_sameButRemarks (h : bench.IgnoresVerbosity) (file : String)
    (language : Option String) :
    Attempt.Matches SameButRemarks (formatFile bench file language)
      (formatFile bench file language) := by
  have hR := sameButRemarks_congruence
  refine (Attempt.matches_lift (Workspace.resolvePath_sameButRemarks file)).bind fun path => ?_
  refine (hR.readText path).bind fun text => ?_
  refine (Workspace.loadSettings_sameButRemarks bench.root _).bind fun loaded => ?_
  refine (Attempt.matches_lift (languageOf_sameButRemarks loaded.1 path language)).bind
    fun found => ?_
  cases found with
  | none => exact Attempt.matches_pure _
  | some language =>
    refine (Attempt.matches_lift (hR.matches_setSettings _)).bind fun _ => ?_
    refine finding_sameButRemarks h loaded.1 fun formatters hformat => ?_
    exact withDocument_sameButRemarks _ fun n => formatDocument_sameButRemarks
      (Host.matches_of_ignoresVerbosity h.meanwhile hformat) n

theorem formatInput_sameButRemarks (h : bench.IgnoresVerbosity) (file : String)
    (language : Option String) :
    Attempt.Matches SameButRemarks (formatInput bench file language)
      (formatInput bench file language) := by
  have hR := sameButRemarks_congruence
  refine (Attempt.matches_lift (Workspace.resolvePath_sameButRemarks file)).bind fun path => ?_
  refine Attempt.takeInput_sameButRemarks.bind fun text => ?_
  refine (Workspace.loadSettings_sameButRemarks bench.root _).bind fun loaded => ?_
  refine (Attempt.matches_lift (languageOf_sameButRemarks loaded.1 path language)).bind
    fun found => ?_
  cases found with
  | none => exact Attempt.matches_lift (hR.matches_record _)
  | some language =>
    refine (Attempt.matches_lift (hR.matches_setSettings _)).bind fun _ => ?_
    refine finding_sameButRemarks h loaded.1 fun formatters hformat => ?_
    refine (Attempt.Matches.forM (fun _ => Attempt.matches_lift (hR.matches_warn _)) _).bind
      fun _ => withDocument_sameButRemarks _ fun n => formatAndOutput_sameButRemarks
        (Host.matches_of_ignoresVerbosity h.meanwhile fun id f hfound => ?_) n
    have hkept := (Registry.get?_withoutDisk formatters id).symm.trans hfound
    exact hformat id f (Option.filter_eq_some_iff.1 hkept).1

/-- **Whether remarks are made does not influence formatting.**  Take two sessions that are the same
but for the flag that asks for remarks, and for remarks made so far.  In both of them format a file,
or the text that comes in, with formatters that do not look at the flag.  That ends with the same
result or the same failure, and in the same session but for the flag and remarks: messages, texts
that are handed out, files that are written, sleeps and all other words in the log are the same and
come in the same order.  This holds too if the formatters record what they are asked, so they are
asked the same. -/
theorem format_sameButRemarks (hbench : bench.IgnoresVerbosity) (file : String)
    (language : Option String) {s t : Session} (h : SameButRemarks s t) :
    ∀ b ∈ [bench, bench.recording], ∀ format ∈ [formatFile, formatInput],
      let one := (format b file language).run s
      let two := (format b file language).run t
      two.1 = one.1 ∧ two.2.quiet = one.2.quiet := by
  intro b hb format hformat one two
  have hignores : b.IgnoresVerbosity := by
    rcases List.mem_pair.1 hb with rfl | rfl
    · exact hbench
    · exact hbench.recording
  have hmatches : Attempt.Matches SameButRemarks (format b file language)
      (format b file language) := by
    rcases List.mem_pair.1 hformat with rfl | rfl
    · exact formatFile_sameButRemarks hignores file language
    · exact formatInput_sameButRemarks hignores file language
  exact hmatches s t h

/-- Settings that ask for remarks are loaded in between: at first there are fewer remarks, in the
end they are made in any case. -/
theorem format_sameButRemarks_when_asked :
    let append : Formatter := ⟨"append", false, fun request => pure (.text (request.text ++ "!"))⟩
    let bench : Workbench := ⟨⟨"/"⟩, fun _ => pure (.ofFormatters [append]), fun _ => pure ()⟩
    let settings := "\x7b\"chainfmt.debug\": true, \"chainfmt.formatters\": [\"append\"]\x7d"
    let disk := Disk.ofFiles [(⟨"/a.rs"⟩, "a"), (⟨"/.chainfmt/settings.json"⟩, settings)]
    let silent : Session := { disk, outside := some {} }
    let told : Session := { disk, outside := some {}, verbose := true }
    let one := (formatFile bench "a.rs" (some "rust")).run silent
    let two := (formatFile bench "a.rs" (some "rust")).run told
    bench.IgnoresVerbosity ∧ SameButRemarks silent told ∧
      one.2.verbose = true ∧ one.2.history.length < two.2.history.length ∧
      (one.2.read ⟨"/a.rs"⟩).toOption = some "a!" ∧
      two.1 = one.1 ∧ two.2.quiet = one.2.quiet := by
  intro append bench settings disk silent told
  have hignores : bench.IgnoresVerbosity :=
    { meanwhile := fun _ => Action.matches_pure _
      formatters := fun _ => Action.matches_pure _
      format := fun hfound => by
        obtain rfl := List.mem_singleton.1 (Registry.mem_of_get? hfound)
        exact fun _ => Attempt.matches_pure _ }
  have hsame : SameButRemarks silent told := rfl
  refine ⟨hignores, hsame, ?_, ?_, ?_, format_sameButRemarks hignores "a.rs" (some "rust") hsame
    bench List.mem_cons_self formatFile List.mem_cons_self⟩
  all_goals
    -- Only closed terms are evaluated.
    clear hsame hignores
    decide +kernel +revert

end Command

end FormatChain
