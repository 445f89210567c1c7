import FormatChain.Proofs.Run.Stages

/-!
# What holds across the parts of a run

A run says something, names a formatter, asks the editor to format and to save, takes the guard and
gives it back, and sleeps.  A relation that holds across each of these holds across the whole.  What
a run does between two sleeps is kept apart, for relations that mind the sleeps.

* `Host.Bears` : a relation that holds across all that a run does between two sleeps.
* `Host.Bears.formatDocument`, `Host.Bears.saveAfterStep`, `Host.Bears.saveAfterChain` : parts of a
  run without a sleep.
* `Host.Bears.run` : a run, if the relation holds across its sleeps as well.
-/

namespace FormatChain.Host

open FormatChain.Session (AllowsWords)

/-- The relation holds across all that a run does to the document of a number between two sleeps:
words, other settings, the guard, a formatter's work and its output, and saving. -/
structure Bears (host : Host) (n : Nat) (R : Session → Session → Prop) : Prop where
  words : AllowsWords R
  settings (settings : Settings) : Action.Leads R (Action.setSettings settings)
  guard (guard : Guard) : Action.Leads R (setGuard guard)
  format {id : String} {f : Formatter} (h : host.formatters.get? id = some f)
    (request : FormatRequest) : Attempt.Leads R (f.format request)
  output (output : FormatOutput) : Attempt.Leads R (takeOutput n output)
  save : Attempt.Leads R (saveDocument n)

namespace Bears

variable {host : Host} {n : Nat} {R : Session → Session → Prop} [IsPreorder Session R]

/-! ## Without a sleep -/

theorem formatDocument (h : host.Bears n R) : Attempt.Leads R (host.formatDocument n) := by
  refine Attempt.Leads.bind (fun s => refl s) fun d => ?_
  refine Attempt.Leads.bind (fun s => refl s) fun settings => ?_
  cases hchoose : host.chooseFormatter settings d.language with
  | error e => exact fun s => refl s
  | ok formatter =>
    obtain ⟨id, -, hfound⟩ := chooseFormatter_eq_ok_iff.1 hchoose
    refine Attempt.leads_ok_bind ?_
    refine Attempt.Leads.bind (warnAboutUnsaved_leads h.words formatter d) fun _ => ?_
    refine Attempt.Leads.bind (h.format hfound _) fun output => ?_
    refine Attempt.Leads.bind (h.output output) fun _ => ?_
    split
    · exact h.words.debug _
    · exact Attempt.Leads.bind (fun s => refl s) fun _ => h.words.debug _

theorem activate (h : host.Bears n R) (slot : Slot) (id : String) :
    Action.Leads R (activate slot id) := by
  refine Action.Leads.bind (fun s => refl s) fun settings => ?_
  split
  · exact (h.settings _).bind fun _ => Action.leads_pure _
  · exact (h.words.error _).bind fun _ => Action.leads_pure _

theorem restore (h : host.Bears n R) (slot : Slot) : Action.Leads R (restore slot) := by
  refine Action.Leads.bind (fun s => refl s) fun settings => ?_
  split
  · exact (h.settings _).bind fun _ => h.words.debug _
  · exact h.words.error _

variable {course : Course}

theorem saveAfterStep (h : host.Bears course.document R) (id : String) :
    Action.Leads R (saveAfterStep course id) := by
  refine Action.Leads.bind (fun s => refl s) fun d => ?_
  refine Action.Leads.ite ?_ (Action.leads_pure _)
  refine Action.Leads.bind h.save fun result => ?_
  cases result with
  | ok u => exact Action.leads_pure _
  | error cause => exact (h.words.error _).bind fun _ => Action.leads_pure _

theorem saveAfterChain (h : host.Bears course.document R) (failure : Option RunFailure) :
    Action.Leads R (saveAfterChain course failure) := by
  refine Action.Leads.bind (fun s => refl s) fun d => ?_
  refine Action.Leads.ite ?_ (Action.leads_pure _)
  refine Action.Leads.bind h.save fun result => ?_
  cases result with
  | ok u => exact Action.leads_pure _
  | error cause => exact (h.words.error _).bind fun _ => Action.leads_pure _

/-- From the restoration on there is no sleep. -/
theorem fromRestore (h : host.Bears course.document R) (original : String)
    (stepping : Stepping) : Action.Leads R (fromRestore course original stepping) := by
  refine (h.restore stepping.slot).bind fun _ => ?_
  refine (h.saveAfterChain stepping.failure).bind fun failure => ?_
  exact (finalEdit_leads h.words original).bind fun edit => Action.leads_pure _

/-! ## With the sleeps -/

/-- The step of a formatter. -/
theorem runStep (h : host.Bears course.document R)
    (hsleep : ∀ millis, Action.Leads R (host.sleep millis)) (hconfirm : course.confirm = host.poll)
    (slot : Slot) (index : Nat) (id : String) (before : Fingerprint) :
    Action.Leads R (host.runStep course slot index id before) := by
  have hconclude : ∀ confirmed result,
      Action.Leads R (host.concludeStep course index id before confirmed result) := by
    intro confirmed result
    refine (hsleep _).bind fun _ => Action.Leads.bind (fun s => refl s) fun d => ?_
    refine (h.words.debug _).bind fun _ => ?_
    cases result with
    | ok u => exact Action.leads_pure _
    | error failure => exact (h.words.error _).bind fun _ => Action.leads_pure _
  rw [runStep_eq_concludeStep, hconfirm]
  refine (hsleep _).bind fun _ => ?_
  refine (poll_leads h.words hsleep slot id _).bind fun confirmed => ?_
  have hafter := Action.Leads.bind h.formatDocument (hconclude confirmed)
  cases confirmed with
  | true => exact hafter
  | false => exact (h.words.warn _).bind fun _ => hafter

theorem runSteps (h : host.Bears course.document R)
    (hsleep : ∀ millis, Action.Leads R (host.sleep millis)) (hconfirm : course.confirm = host.poll)
    (ids : List String) (index : Nat) (slot : Slot) (before : Fingerprint) :
    Action.Leads R (host.runSteps course index ids slot before) := by
  induction ids generalizing index slot before with
  | nil => exact Action.leads_pure _
  | cons id rest ih =>
    refine Action.Leads.bind (fun s => refl s) fun s => ?_
    refine Action.Leads.ite ((h.words.debug _).bind fun _ => Action.leads_pure _) ?_
    refine (h.words.debug _).bind fun _ => (h.activate slot id).bind fun named => ?_
    cases named with
    | error cause => exact Action.leads_pure _
    | ok slot =>
      refine (h.runStep hsleep hconfirm slot index id before).bind fun stepped => ?_
      refine (h.saveAfterStep id).bind fun failure => ?_
      cases failure with
      | some failure => exact Action.leads_pure _
      | none => exact (ih (index + 1) slot stepped.2).bind fun _ => Action.leads_pure _

theorem runIfNeeded (h : host.Bears course.document R)
    (hsleep : ∀ millis, Action.Leads R (host.sleep millis)) (hconfirm : course.confirm = host.poll)
    (chain : Chain) : Action.Leads R (host.runIfNeeded course chain) := by
  have hremark : ∀ text reason, Action.Leads R (do
      Action.debug text
      return .skipped reason : Action RunReport) :=
    fun text reason => (h.words.debug text).bind fun _ => Action.leads_pure _
  refine Action.Leads.bind (fun s => refl s) fun d => ?_
  refine Action.Leads.ite (hremark _ _) (Action.Leads.ite (hremark _ _) ?_)
  refine Action.Leads.bind (fun s => refl s) fun d => ?_
  refine Action.Leads.bind (fun s => refl s) fun settings => ?_
  cases Slot.acquire settings d.language with
  | error e => exact (h.words.error _).bind fun _ => Action.leads_pure _
  | ok slot =>
    refine (h.words.debug _).bind fun _ => ?_
    refine (h.runSteps hsleep hconfirm chain.ids 0 slot _).bind fun stepping => ?_
    exact h.fromRestore d.text stepping

/-- **A run.** -/
theorem run (h : host.Bears n R) (hsleep : ∀ millis, Action.Leads R (host.sleep millis))
    (chain : Chain) (options : RunOptions) : Action.Leads R (host.run n chain options) := by
  refine Action.Leads.bind (fun s => refl s) fun s => ?_
  split
  · refine Action.Leads.bind (fun s => refl s) fun d => ?_
    exact (h.words.debug _).bind fun _ => Action.leads_pure _
  · refine (h.guard _).bind fun _ => ?_
    have hran : Action.Leads R (host.runIfNeeded (courseOf host.poll n chain options) chain) :=
      runIfNeeded h hsleep rfl chain
    refine Action.Leads.bind hran fun report => ?_
    exact Action.Leads.bind (fun s => refl s) fun s =>
      (h.guard _).bind fun _ => Action.leads_pure _

end Bears

end FormatChain.Host
