import FormatChain.Proofs.Run.Looking
import FormatChain.Proofs.Run.Moves
import FormatChain.Proofs.Run.Parts

/-!
# How often and how long a run sleeps

A run sleeps before and after it asks the editor to format, and between the looks that it takes to
see whether a formatter became active.  It does not sleep otherwise.  So the sleeps of a run are
those of its steps, and there are bounds for how many they are and how long they last.

* `Session.sleeps` : the sleeps of a session so far.
* `Host.Paced` : a session leads to another one with some sleeps, and no others that a run asks for.
* `RunOptions.stepPauses` : the sleeps of a step.
* `Host.poll_paced`, `Host.runStep_paced`, `Host.run_paced` : the sleeps of polling, of a step and
  of a run.
* `Host.poll_exact_run_bounded` : how often a run looks and sleeps.
-/

namespace FormatChain

open Session (AllowsWords)

/-! ## Sleeps -/

/-- How long a sleep lasted, if the event is one. -/
def Event.pause? : Event → Option Nat
  | .slept millis => some millis
  | _ => none

namespace Session

variable {s s' : Session}

/-- How long the program slept each time, the earliest sleep first. -/
def sleeps (s : Session) : List Nat := (s.history.filterMap Event.pause?).reverse

/-- There was no more sleep. -/
def SameSleeps (s s' : Session) : Prop := s'.sleeps = s.sleeps

instance : IsPreorder Session SameSleeps where
  refl _ := rfl
  trans _ _ _ h h' := h'.trans h

theorem sleeps_record_of_awake {e : Event} (h : e.pause? = none) (s : Session) :
    { s with history := e :: s.history }.sleeps = s.sleeps := by
  rw [sleeps, List.filterMap_cons_none h, sleeps]

theorem sleeps_slept (s : Session) (millis : Nat) :
    { s with history := .slept millis :: s.history }.sleeps = s.sleeps ++ [millis] := by
  have hslept : Event.pause? (.slept millis) = some millis := rfl
  rw [sleeps, List.filterMap_cons_some hslept, List.reverse_cons, sleeps]

theorem sameSleeps_allowsWords : AllowsWords SameSleeps where
  logged _ _ s := sleeps_record_of_awake rfl s
  notified _ _ s := sleeps_record_of_awake rfl s

end Session

/-- The sleeps of a step in which polling took so many. -/
def RunOptions.stepPauses (options : RunOptions) (polling : Nat) : List Nat :=
  options.delay :: (List.replicate polling options.activation.interval ++ [options.delay])

theorem RunOptions.length_stepPauses (options : RunOptions) (polling : Nat) :
    (options.stepPauses polling).length = 2 + polling := by
  rw [stepPauses, List.length_cons, List.length_append, List.length_replicate,
    List.length_singleton]
  omega

open Session (SameSleeps sameSleeps_allowsWords)

/-! ## What is done without a sleep -/

namespace Host

theorem saveDocument_sameSleeps (n : Nat) : Attempt.Leads SameSleeps (saveDocument n) :=
  saveDocument_leads sameSleeps_allowsWords.debug
    (fun _ _ _ _ => Session.sleeps_record_of_awake rfl _) fun _ => rfl

theorem takeOutput_sameSleeps (n : Nat) (output : FormatOutput) :
    Attempt.Leads SameSleeps (takeOutput n output) :=
  takeOutput_leads sameSleeps_allowsWords (fun _ _ => rfl) (fun _ _ => rfl) output

/-- The first session leads to the second one, and a run asks for these sleeps on the way, in this
order. What formatters do, and others during a sleep, is their own. -/
inductive Paced (host : Host) : List Nat → Session → Session → Prop
  /-- The run does something without a sleep. -/
  | awake {s s' : Session} (h : SameSleeps s s') : Paced host [] s s'
  /-- A formatter works. -/
  | format {id : String} {f : Formatter} (h : host.formatters.get? id = some f)
    (request : FormatRequest) (s : Session) : Paced host [] s ((f.format request).run s).2
  /-- The run sleeps. -/
  | sleep (millis : Nat) (s : Session) : Paced host [millis] s (host.sleep millis s).2
  /-- One thing after the other. -/
  | append {first second : List Nat} {s between s' : Session} (h : Paced host first s between)
    (h' : Paced host second between s') : Paced host (first ++ second) s s'

namespace Paced

variable {host : Host} {pauses : List Nat} {s between s' : Session}

theorem before (h : host.Paced [] s between) (h' : host.Paced pauses between s') :
    host.Paced pauses s s' := h.append h'

theorem after (h : host.Paced pauses s between) (h' : host.Paced [] between s') :
    host.Paced pauses s s' := by
  have hwhole := h.append h'
  rw [List.append_nil] at hwhole
  exact hwhole

instance : IsPreorder Session (host.Paced []) where
  refl s := .awake (refl s)
  trans _ _ _ := before

theorem allowsWords : AllowsWords (host.Paced []) where
  logged text context s := .awake (sameSleeps_allowsWords.logged text context s)
  notified kind text s := .awake (sameSleeps_allowsWords.notified kind text s)

theorem bears (n : Nat) : host.Bears n (host.Paced []) where
  words := allowsWords
  settings _ _ := .awake rfl
  guard _ _ := .awake rfl
  format hget request s := .format hget request s
  output output s := .awake (takeOutput_sameSleeps n output s)
  save s := .awake (saveDocument_sameSleeps n s)

/-- If others neither sleep nor forget sleeps, the sleeps of the run are all that is added. -/
theorem sleeps (hkeeps : ∀ s s', host.Others s s' → SameSleeps s s')
    (h : host.Paced pauses s s') : s'.sleeps = s.sleeps ++ pauses := by
  induction h with
  | awake h => exact h.trans (List.append_nil _).symm
  | format hget request s =>
    have hsame : SameSleeps s _ := hkeeps _ _ (.format hget request s)
    exact hsame.trans (List.append_nil _).symm
  | sleep millis s =>
    have hslept := Session.sleeps_slept s millis
    have hsame := hkeeps _ _ (.sleep { s with history := .slept millis :: s.history } millis)
    exact hsame.trans hslept
  | append _ _ ih ih' => rw [ih', ih, List.append_assoc]

end Paced

variable {host : Host} {course : Course} {s : Session}

/-! ## The sleeps of polling -/

theorem afterSleeps_paced (host : Host) (interval : Nat) (s : Session) (k : Nat) :
    host.Paced (List.replicate k interval) s (host.afterSleeps interval s k) := by
  induction k with
  | zero => exact .awake (refl s)
  | succ k ih =>
    rw [List.replicate_succ']
    exact ih.append (.sleep interval _)

/-- **Polling sleeps once less than it looks.** -/
theorem poll_paced (host : Host) (slot : Slot) (id : String) (policy : ActivationPolicy)
    (s : Session) :
    host.Paced (List.replicate (host.lookCount slot id policy s - 1) policy.interval) s
      (host.poll slot id policy s).2 := by
  have hslept := afterSleeps_paced host policy.interval s (host.lookCount slot id policy s - 1)
  rw [poll_eq_pollTelling, pollTelling_eq]
  dsimp only
  split
  · refine hslept.after ?_
    rw [remarkSeen]
    split
    · exact .awake (refl _)
    · exact Paced.allowsWords.debug _ _
  · exact hslept

/-! ## The sleeps of a step -/

theorem concludeStep_paced (host : Host) (course : Course) (index : Nat) (id : String)
    (before : Fingerprint) (confirmed : Bool) (result : Except Failure Unit) (s : Session) :
    host.Paced [course.options.delay] s
      (host.concludeStep course index id before confirmed result s).2 := by
  have hwords : AllowsWords (host.Paced []) := Paced.allowsWords
  have hslept : host.Paced [course.options.delay] s (host.sleep course.options.delay s).2 :=
    .sleep course.options.delay s
  rw [concludeStep, Action.bind_apply]
  refine hslept.after ?_
  refine Action.Leads.bind (R := host.Paced []) (fun s => refl s) (fun d => ?_) _
  refine (hwords.debug _).bind fun _ => ?_
  cases result with
  | ok u => exact Action.leads_pure _
  | error failure => exact (hwords.error _).bind fun _ => Action.leads_pure _

/-- **A step sleeps twice, and while it polls.** -/
theorem runStep_paced (hconfirm : course.confirm = host.poll) (slot : Slot) (index : Nat)
    (id : String) (before : Fingerprint) (s : Session) :
    ∃ polling ≤ course.options.activation.attempts - 1,
      host.Paced (course.options.stepPauses polling) s
        (host.runStep course slot index id before s).2 := by
  have hwords : AllowsWords (host.Paced []) := Paced.allowsWords
  have hslept : host.Paced [course.options.delay] s (host.sleep course.options.delay s).2 :=
    .sleep course.options.delay s
  rw [runStep_eq_concludeStep, hconfirm, Action.bind_apply, Action.bind_apply]
  generalize (host.sleep course.options.delay s).2 = slept at hslept ⊢
  have hpolled := poll_paced host slot id course.options.activation slept
  have hcount := lookCount_le host slot id course.options.activation slept
  refine ⟨host.lookCount slot id course.options.activation slept - 1, by omega, ?_⟩
  refine hslept.append (hpolled.append ?_)
  generalize host.poll slot id course.options.activation slept = polled
  obtain ⟨confirmed, looked⟩ := polled
  -- Whether or not there is a warning, the editor is asked, and the step is concluded.
  have hafter : ∀ asked, host.Paced [course.options.delay] asked
      ((do
        let result ← (host.formatDocument course.document).run
        host.concludeStep course index id before confirmed result : Action _) asked).2 := by
    intro asked
    rw [Action.bind_apply]
    exact Paced.before ((Paced.bears course.document).formatDocument asked)
      (concludeStep_paced host course index id before confirmed _ _)
  cases confirmed with
  | true => exact hafter looked
  | false => exact Paced.before (hwords.warn _ looked) (hafter _)

/-! ## The sleeps of a run -/

/-- The sleeps are those of so many steps, in each of which polling sleeps less often than it may
look. -/
def PacedSteps (host : Host) (options : RunOptions) (steps : Nat) (s s' : Session) : Prop :=
  ∃ polling : List Nat, polling.length = steps ∧
    (∀ k ∈ polling, k ≤ options.activation.attempts - 1) ∧
    host.Paced (polling.flatMap options.stepPauses) s s'

namespace PacedSteps

variable {options : RunOptions} {steps : Nat} {between s' : Session}

theorem none (h : host.Paced [] s s') : host.PacedSteps options 0 s s' :=
  ⟨[], rfl, fun _ hk => absurd hk List.not_mem_nil, h⟩

theorem before (h : host.Paced [] s between) (hsteps : host.PacedSteps options steps between s') :
    host.PacedSteps options steps s s' := by
  obtain ⟨polling, hlength, hmost, hpaced⟩ := hsteps
  exact ⟨polling, hlength, hmost, h.before hpaced⟩

theorem after (hsteps : host.PacedSteps options steps s between) (h : host.Paced [] between s') :
    host.PacedSteps options steps s s' := by
  obtain ⟨polling, hlength, hmost, hpaced⟩ := hsteps
  exact ⟨polling, hlength, hmost, hpaced.after h⟩

theorem cons {k : Nat} (hk : k ≤ options.activation.attempts - 1)
    (h : host.Paced (options.stepPauses k) s between)
    (hsteps : host.PacedSteps options steps between s') :
    host.PacedSteps options (steps + 1) s s' := by
  obtain ⟨polling, hlength, hmost, hpaced⟩ := hsteps
  refine ⟨k :: polling, congrArg Nat.succ hlength, ?_, ?_⟩
  · exact List.forall_mem_cons.2 ⟨hk, hmost⟩
  · rw [List.flatMap_cons]
    exact h.append hpaced

end PacedSteps

/-- Every formatter that has its step sleeps as a step does, and there is no other sleep. -/
theorem runSteps_paced (hconfirm : course.confirm = host.poll) (ids : List String) (index : Nat)
    (slot : Slot) (before : Fingerprint) (s : Session) :
    let ran := host.runSteps course index ids slot before s
    host.PacedSteps course.options ran.1.steps.length s ran.2 ∧
      ran.1.steps.length ≤ ids.length := by
  have hwords : AllowsWords (host.Paced []) := Paced.allowsWords
  have hbears : host.Bears course.document (host.Paced []) := Paced.bears course.document
  induction ids generalizing index slot before s with
  | nil => exact ⟨.none (refl s), Nat.le_refl 0⟩
  | cons id rest ih =>
    rw [runSteps, Action.bind_apply, Action.get_apply]
    by_cases hcancelled : s.cancelled = true
    · rw [if_pos hcancelled]
      exact ⟨.none (hwords.debug _ s), Nat.zero_le _⟩
    · rw [if_neg hcancelled, Action.bind_apply]
      have hannounced := hwords.debug s!"Step {index + 1}/{course.length}: {id}" s
      generalize (Action.debug s!"Step {index + 1}/{course.length}: {id}" s).2 = announced
        at hannounced ⊢
      have hactivated := hbears.activate slot id announced
      rw [Action.bind_apply]
      generalize activate slot id announced = activated at hactivated ⊢
      obtain ⟨cause | slot', named⟩ := activated
      · exact ⟨.none (hannounced.before hactivated), Nat.zero_le _⟩
      · simp only [Action.bind_apply]
        obtain ⟨k, hk, hstep⟩ := runStep_paced hconfirm slot' index id before named
        generalize host.runStep course slot' index id before named = stepped at hstep ⊢
        obtain ⟨⟨step, after⟩, stepped⟩ := stepped
        have hsaved := hbears.saveAfterStep id stepped
        generalize saveAfterStep course id stepped = saving at hsaved ⊢
        have hnamed : host.Paced [] s named := hannounced.before hactivated
        obtain ⟨_ | failure, saved⟩ := saving
        · obtain ⟨hrest, hfewer⟩ := ih (index + 1) slot' after saved
          exact ⟨.before hnamed (.cons hk hstep (.before hsaved hrest)),
            Nat.succ_le_succ hfewer⟩
        · exact ⟨.before hnamed (.cons hk hstep (.none hsaved)),
            Nat.succ_le_succ (Nat.zero_le _)⟩

theorem upToRestore_paced (hconfirm : course.confirm = host.poll) (chain : Chain) (slot : Slot)
    (s : Session) :
    let ran := host.upToRestore course chain slot s
    host.PacedSteps course.options ran.1.steps.length s ran.2 ∧
      ran.1.steps.length ≤ chain.length := by
  have hwords : AllowsWords (host.Paced []) := Paced.allowsWords
  rw [upToRestore, Action.bind_apply, Action.document_apply, Action.bind_apply]
  have hannounced : ∀ text, host.Paced [] s (Action.debug text s).2 :=
    fun text => hwords.debug text s
  obtain ⟨hsteps, hfewer⟩ := runSteps_paced hconfirm chain.ids 0 slot
    (Fingerprint.of (s.document course.document).text) _
  exact ⟨.before (hannounced _) hsteps, hfewer⟩

/-- A run that was not skipped sleeps for its steps only. -/
theorem runChain_paced (hconfirm : course.confirm = host.poll) (chain : Chain) (s : Session) :
    let ran := host.runChain course chain s
    host.PacedSteps course.options ran.1.steps.length s ran.2 ∧
      ran.1.steps.length ≤ chain.length := by
  have hwords : AllowsWords (host.Paced []) := Paced.allowsWords
  cases hacquire : Slot.acquire s.app.settings (s.document course.document).language with
  | error e =>
    simp only [runChain, Action.bind_apply, Action.document_apply, Action.settings_apply, hacquire]
    exact ⟨.none (hwords.error _ s), Nat.zero_le _⟩
  | ok slot =>
    rw [runChain_eq host course chain hacquire]
    obtain ⟨hsteps, hfewer⟩ := upToRestore_paced hconfirm chain slot s
    generalize host.upToRestore course chain slot s = stepped at hsteps hfewer ⊢
    have hbears : host.Bears course.document (host.Paced []) := Paced.bears course.document
    have hrestored := hbears.fromRestore (s.document course.document).text stepped.1 stepped.2
    exact ⟨hsteps.after hrestored, hfewer⟩

/-- **The sleeps of a run are those of its steps.** -/
theorem run_paced (host : Host) (n : Nat) (chain : Chain) (options : RunOptions) (s : Session) :
    let ran := host.run n chain options s
    host.PacedSteps options ran.1.steps.length s ran.2 ∧ ran.1.steps.length ≤ chain.length := by
  have hwords : AllowsWords (host.Paced []) := Paced.allowsWords
  cases hheld : s.app.guard.held with
  | true =>
    rw [run, runWith_held host host.poll n chain options hheld]
    exact ⟨.none (hwords.debug _ s), Nat.zero_le _⟩
  | false =>
    rw [run, runWith_of_free hheld]
    have hneeded : ∀ s,
        let ran := host.runIfNeeded (courseOf host.poll n chain options) chain s
        host.PacedSteps options ran.1.steps.length s ran.2 ∧
          ran.1.steps.length ≤ chain.length := by
      intro s
      rw [runIfNeeded, Action.bind_apply, Action.document_apply]
      dsimp only
      split
      · exact ⟨.none (hwords.debug _ s), Nat.zero_le _⟩
      · split
        · exact ⟨.none (hwords.debug _ s), Nat.zero_le _⟩
        · exact @runChain_paced _ (courseOf host.poll n chain options) rfl chain s
    obtain ⟨hsteps, hfewer⟩ := hneeded (held s)
    have hheld : host.Paced [] s (held s) := .awake rfl
    have hreleased : ∀ s, host.Paced [] s (released s) := fun _ => .awake rfl
    exact ⟨(hsteps.before hheld).after (hreleased _), hfewer⟩

end Host

/-! ## The bounds -/

theorem le_clamp {low high n : Nat} : low ≤ clamp low high n := Nat.le_max_left _ _

theorem clamp_le {low high n : Nat} (h : low ≤ high) : clamp low high n ≤ high :=
  Nat.max_le.2 ⟨h, Nat.min_le_left _ _⟩

/-- Whatever the settings say, the pauses and looks of a run are within bounds. -/
theorem resolveRunOptions_bounds (settings : Settings) (language : String) :
    let options := (resolveRunOptions settings language).value
    10 ≤ options.delay ∧ options.delay ≤ 5000 ∧ 1 ≤ options.activation.attempts ∧
      options.activation.attempts ≤ 100 ∧ options.activation.interval ≤ 1000 := by
  exact ⟨le_clamp, clamp_le (by decide), le_clamp, clamp_le (by decide), Nat.min_le_left _ _⟩

theorem length_flatMap_stepPauses_le {options : RunOptions} {most : Nat} {polling : List Nat}
    (h : ∀ k ∈ polling, k ≤ most) :
    (polling.flatMap options.stepPauses).length ≤ polling.length * (2 + most) := by
  induction polling with
  | nil => exact Nat.zero_le _
  | cons k rest ih =>
    obtain ⟨hk, hrest⟩ := List.forall_mem_cons.1 h
    rw [List.flatMap_cons, List.length_append, RunOptions.length_stepPauses, List.length_cons,
      Nat.succ_mul]
    have hfew := ih hrest
    omega

namespace Host

/-- **Polling is exact, and the sleeps of a run are bounded.**  Whatever goes on during the sleeps:
polling sees a formatter if and only if it is the active one at one of the first looks, as many as
the policy says. With `first` for the number of the first look that sees it, or a larger number than
there are looks if none does, it looks `min first attempts` times, in the session it starts from and
after one sleep, two sleeps and so on, and sleeps once less than that, always for the policy's
interval; after the look that sees the formatter there is but a remark.  And whatever the settings
say, a run with the options that come of them sleeps exactly twice for each step that it reports,
before and after the editor is asked, for 10 to 5000 milliseconds, and besides that only while it
polls, less than a hundred times for each step and never longer than a second. These are all the
sleeps that the history shows, if nobody else sleeps. -/
theorem poll_exact_run_bounded (host : Host) :
    (∀ slot id policy s,
      let sees := host.seenAfter slot id policy.interval s
      let first := host.firstSeen slot id policy s
      let count := min first policy.attempts
      let last := host.afterSleeps policy.interval s (count - 1)
      let told := host.pollTelling slot id policy s
      host.poll slot id policy s = (told.1.1, told.2) ∧
      (∀ k < policy.attempts, sees k = true → (∀ i < k, sees i = false) → first = k + 1) ∧
      ((∀ k < policy.attempts, sees k = false) → policy.attempts < first) ∧
      (told.1.1 = true ↔ ∃ k < policy.attempts, sees k = true) ∧
      told.1.2 = host.looks policy.interval s count ∧
      told.2 = (if first ≤ policy.attempts then remarkSeen id (first - 1) last else last) ∧
      host.Paced (List.replicate (count - 1) policy.interval) s told.2) ∧
    ∀ n chain settings language s,
      let options := (resolveRunOptions settings language).value
      let ran := host.run n chain options s
      (10 ≤ options.delay ∧ options.delay ≤ 5000 ∧ options.activation.interval ≤ 1000) ∧
      ∃ polling : List Nat, polling.length = ran.1.steps.length ∧ (∀ k ∈ polling, k ≤ 99) ∧
        let pauses := polling.flatMap options.stepPauses
        host.Paced pauses s ran.2 ∧ pauses.length ≤ chain.length * (2 + 99) ∧
        ((∀ s s', host.Others s s' → SameSleeps s s') → ran.2.sleeps = s.sleeps ++ pauses) := by
  constructor
  · intro slot id policy s sees first count last told
    have htold : told = if first ≤ policy.attempts then
          ((true, host.looks policy.interval s count), remarkSeen id (first - 1) last)
        else ((false, host.looks policy.interval s count), last) :=
      pollTelling_eq host slot id policy s
    have hpoll : host.poll slot id policy s = (told.1.1, told.2) :=
      poll_eq_pollTelling host slot id policy s
    have hpaced : host.Paced (List.replicate (count - 1) policy.interval) s told.2 := by
      have hpaced := poll_paced host slot id policy s
      rw [hpoll] at hpaced
      exact hpaced
    have hiff : first ≤ policy.attempts ↔ ∃ k < policy.attempts, sees k = true := firstSeen_le_iff
    refine ⟨hpoll, fun k hk hseen hbefore => firstSeen_eq hk hseen hbefore, ?_, ?_, ?_, ?_, hpaced⟩
    · intro hunseen
      rw [← Nat.not_le, hiff]
      rintro ⟨k, hk, hseen⟩
      exact Bool.false_ne_true ((hunseen k hk).symm.trans hseen)
    · rw [← hiff, htold]
      split
      · next hfirst => exact iff_of_true rfl hfirst
      · next hfirst => exact iff_of_false Bool.false_ne_true hfirst
    · rw [htold]
      split
      · rfl
      · rfl
    · rw [htold]
      split
      · rfl
      · rfl
  · intro n chain settings language s options ran
    obtain ⟨hdelay, hdelay', -, hattempts, hinterval⟩ := resolveRunOptions_bounds settings language
    obtain ⟨⟨polling, hlength, hmost, hpaced⟩, hsteps⟩ := run_paced host n chain options s
    have hfew : ∀ k ∈ polling, k ≤ 99 := fun k hk =>
      Nat.le_trans (hmost k hk) (Nat.sub_le_sub_right hattempts 1)
    refine ⟨⟨hdelay, hdelay', hinterval⟩, polling, hlength, hfew, hpaced, ?_,
      fun hkeeps => hpaced.sleeps hkeeps⟩
    refine Nat.le_trans (length_flatMap_stepPauses_le hfew) ?_
    rw [hlength]
    exact Nat.mul_le_mul_right _ hsteps

/-- Two formatters of which the editor hears late: it has forgotten them after the pause before each
step, and knows them after the first sleep of polling. The settings ask for a pause that is too
short. -/
theorem poll_exact_run_bounded_heard_late :
    let upper : Formatter := ⟨"upper", false, fun request => pure (.text (request.text ++ "!"))⟩
    let stale : Settings := { layers := { workspace := some { Settings.Layer.empty with
      general := .ofEntries [(Settings.Key.formatterDelay, .number (.whole 3)),
        (Settings.Key.activationPollAttempts, .number (.whole 4)),
        (Settings.Key.activationPollInterval, .number (.whole 7))] } } }
    let aware : Settings := { layers := { workspace := some { Settings.Layer.empty with
      general := .ofEntries [(Settings.Key.defaultFormatter, .string "upper")] } } }
    let host : Host := ⟨.ofFormatters [upper], fun millis =>
      Action.setSettings (if millis = 7 then aware else stale)⟩
    let chain : Chain := ⟨["upper", "upper"], by decide⟩
    let slot : Slot := ⟨.workspace, "rust", none, false⟩
    let s : Session :=
      { outside := some {}
        app := { settings := stale }
        documents := [⟨⟨"/a.rs"⟩, "rust", "a", none, .memory, 1⟩] }
    let options := (resolveRunOptions stale "rust").value
    (∀ s s', host.Others s s' → SameSleeps s s') ∧
      host.firstSeen slot "upper" options.activation s = 2 ∧
      (host.poll slot "upper" options.activation s).1 = true ∧
      (host.run 0 chain options s).2.sleeps = [10, 7, 10, 10, 7, 10] ∧
      (host.run 0 chain options s).2.sleeps.length ≤ chain.length * (2 + 99) := by
  intro upper stale aware host chain slot s options
  have hsleeps : (host.run 0 chain options s).2.sleeps = [10, 7, 10, 10, 7, 10] := by
    decide +kernel +revert
  have hunseen : host.seenAfter slot "upper" options.activation.interval s 0 = false := by
    decide +kernel +revert
  have hseen : host.seenAfter slot "upper" options.activation.interval s 1 = true := by
    decide +kernel +revert
  have hattempts : 1 < options.activation.attempts := by decide +kernel +revert
  have hempty : s.sleeps = [] := rfl
  have hkeeps : ∀ s s', host.Others s s' → SameSleeps s s' := by
    intro s s' h
    cases h with
    | sleep _ _ => rfl
    | format hget request _ =>
      obtain rfl := List.mem_singleton.1 (Registry.mem_of_get? hget)
      rfl
  -- From here on nothing is evaluated.
  clear_value host s slot
  obtain ⟨hpolling, hruns⟩ := poll_exact_run_bounded host
  obtain ⟨hpoll, hfirst, -, hpolled, -⟩ := hpolling slot "upper" options.activation s
  obtain ⟨-, polling, -, -, -, hbound, hall⟩ := hruns 0 chain stale "rust" s
  refine ⟨hkeeps, hfirst 1 hattempts hseen ?_, ?_, hsleeps, ?_⟩
  · intro i hi
    obtain rfl : i = 0 := by omega
    exact hunseen
  · rw [hpoll]
    exact hpolled.2 ⟨1, hattempts, hseen⟩
  · rw [hall hkeeps, hempty, List.nil_append]
    exact hbound

end Host

end FormatChain
