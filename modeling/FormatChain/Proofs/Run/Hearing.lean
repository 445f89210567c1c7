import FormatChain.Proofs.Run.Asking
import FormatChain.Proofs.Run.Nesting
import FormatChain.Proofs.Session.Notifications

/-!
# Changes that are heard during a run

A run names formatters in the settings, and an application may hear of that change while the run is
going on.  It does not scan then, because the guard is held; and when the guard is free again, the
setting has its value from before the run.

* `Action.Hears`, `Host.Hears` : the same doings, with changes heard in them.
* `Action.Hears.matches` : nobody can tell them apart while the guard is held.
* `Settings.AddsOnly`, `Host.run_addsOnly` : what a run leaves in the settings was there before, or
  was written by others.
* `Host.Timeline` : runs, changes and what the application hears, one after the other.
* `Host.run_hears_nothing` : no scan sees what a run named.
-/

namespace FormatChain

open FormatChain.Json FormatChain.Text
open FormatChain.Session (AgreeWhile agreeWhile_congruence WithEvents)
open FormatChain.Settings (Scope)
open Guard (HeldAt)
open Relation (ReflTransGen)

/-! ## Hearing of changes -/

/-- Remarks are no messages. -/
theorem Session.notifications_unremarked (s : Session) :
    s.unremarked.notifications = s.notifications := by
  have hremark : ∀ e : Event, e.isRemark = true → e.notification? = none := by
    rintro (_ | _) h <;> first | rfl | exact absurd h Bool.false_ne_true
  rw [Session.notifications, Session.notifications, unremarked, List.filterMap_filter]
  congr 2
  funext e
  cases h : e.isRemark with
  | true => exact (hremark e h).symm
  | false => rfl

/-- **While the guard is held, an application that hears of a change does not scan.**  It only
remarks on the change. -/
theorem Application.onConfigurationChanged_held {s : Session} (settings : Settings)
    (keys : List String) (hheld : s.app.guard.held = true) :
    (onConfigurationChanged settings keys s).1 = none ∧
      WithEvents s (onConfigurationChanged settings keys s).2 ∧
      (onConfigurationChanged settings keys s).2.unremarked = s.unremarked := by
  have hsaid := Action.debug_onlySays ("Configuration changed: " ++ joined ", " keys) s
  have hsame := Session.unremarked_debug s ("Configuration changed: " ++ joined ", " keys)
  rw [onConfigurationChanged, Action.bind_apply]
  generalize (Action.debug ("Configuration changed: " ++ joined ", " keys) s).2 = said at *
  have hstill : said.app.guard.held = true := by
    rw [hsaid.app]
    exact hheld
  rw [scanAfterChange]
  split
  · rw [Action.bind_apply, Action.get_apply, if_pos hstill]
    exact ⟨rfl, (Action.debug_onlySays _).after hsaid,
      (Session.unremarked_debug said _).trans hsame⟩
  · exact ⟨rfl, hsaid, hsame⟩

/-- To hear of a change changes no setting. -/
theorem Application.settings_onConfigurationChanged (settings : Settings) (keys : List String)
    (s : Session) :
    (onConfigurationChanged settings keys s).2.app.settings = s.app.settings := by
  have hsaid := Action.debug_onlySays ("Configuration changed: " ++ joined ", " keys) s
  rw [onConfigurationChanged, Action.bind_apply, ← hsaid.app]
  generalize (Action.debug ("Configuration changed: " ++ joined ", " keys) s).2 = said
  rw [scanAfterChange]
  split
  · rw [Action.bind_apply, Action.get_apply]
    split
    · exact congrArg App.settings (Action.debug_onlySays _ said).app
    · have htold := Action.tell_onlySays (Conflict.scan settings said.app.conflicted) said
      have hsame : (Action.tell (Conflict.scan settings said.app.conflicted) said).2.app.settings =
          said.app.settings := congrArg App.settings htold.app
      exact hsame
  · rfl

/-- The second action does what the first one does, and starts runs and hears of changed keys
besides. -/
inductive Action.Hears : {α : Type} → Action α → Action α → Prop
  /-- Nothing is heard, but runs may be started. -/
  | nests {α : Type} {x y : Action α} (h : Action.Nests 0 x y) : Hears x y
  /-- One thing is done after the other. -/
  | bind {α β : Type} {x y : Action α} {f g : α → Action β} (h : Hears x y)
      (hrest : ∀ a, Hears (f a) (g a)) : Hears (x >>= f) (y >>= g)
  /-- The application hears of changed keys, of whichever settings, and what it reports is looked
  at. Where there was no change all goes on as if it had reported nothing. -/
  | hear {α : Type} {x : Action α} {f : Option Conflict.ScanReport → Action α}
      (pick : Session → Settings) (keys : List String) (hrest : Hears x (f none)) :
      Hears x (do f (← Application.onConfigurationChanged (pick (← get)) keys))

/-- The second editor has formatters of the same names that do the same and may start runs and hear
of changes besides, as may those who are active meanwhile. -/
structure Host.Hears (host host' : Host) : Prop where
  meanwhile (millis : Nat) : Action.Hears (host.meanwhile millis) (host'.meanwhile millis)
  kinds (id : String) : (host'.formatters.get? id).map Formatter.kind =
    (host.formatters.get? id).map Formatter.kind
  format {id : String} {f f' : Formatter} (h : host.formatters.get? id = some f)
    (h' : host'.formatters.get? id = some f') (request : FormatRequest) :
    Action.Hears (f.format request).run (f'.format request).run

/-- **While the guard is held nobody can tell whether changes were heard.** -/
theorem Action.Hears.matches {α : Type} {x y : Action α} (h : Action.Hears x y) :
    Action.Matches (AgreeWhile (HeldAt 0)) x y := by
  induction h with
  | nests h => exact h.matches
  | bind _ _ ih ihrest => exact ih.bind ihrest
  | @hear α x f pick keys _ ih =>
    intro s t hst
    have hguard : t.app.guard = s.app.guard := congrArg (fun s => s.app.guard) hst.1
    have hheld : t.app.guard.held = true := hguard ▸ Session.held_of_heldAt_zero hst.2
    obtain ⟨hnone, -, hsame⟩ :=
      Application.onConfigurationChanged_held (pick t) keys hheld
    simp only [Action.bind_apply, Action.get_apply, hnone]
    exact ih s _ ⟨hsame.trans hst.1, hst.2⟩

namespace Host

variable {host host' : Host} {n : Nat} {s s' : Session}

theorem Hears.matches (h : host.Hears host') : host.Matches (AgreeWhile (HeldAt 0)) host' :=
  matches_of_kinds (fun millis => (h.meanwhile millis).matches) h.kinds
    fun _ _ _ hf hf' request => (h.format hf hf' request).matches

/-- A run in which changes are heard is as good as one in which none are. -/
theorem Hears.run (h : host.Hears host') (n : Nat) (chain : Chain) (options : RunOptions)
    (s : Session) :
    (host'.run n chain options s).1 = (host.run n chain options s).1 ∧
      (host'.run n chain options s).2.unremarked = (host.run n chain options s).2.unremarked := by
  have hpoll := h.matches.poll (agreeWhile_congruence (HeldAt 0))
  have hmatches : Action.Matches (AgreeWhile fun _ => True) (host.runWith host.poll n chain options)
      (host'.runWith host'.poll n chain options) :=
    runWith_matches (fun _ _ _ => rfl) (fun _ _ _ => trivial) h.matches hpoll n chain options
  obtain ⟨hreport, hsession, -⟩ := hmatches s s ⟨rfl, trivial⟩
  exact ⟨hreport, hsession⟩

/-- The two runs are also as good as each other up to the moment at which they restore the setting,
and the guard is held then. -/
theorem Hears.upToRestoration (h : host.Hears host') (n : Nat) (chain : Chain)
    (options : RunOptions) (scope : Scope) (s : Session) :
    (host'.upToRestoration n chain options scope s).1 =
        (host.upToRestoration n chain options scope s).1 ∧
      AgreeWhile (HeldAt 0) (host.upToRestoration n chain options scope s).2
        (host'.upToRestoration n chain options scope s).2 := by
  have hR := agreeWhile_congruence (HeldAt 0)
  have hcourse : (courseOf host.poll n chain options).Matches (AgreeWhile (HeldAt 0))
      (courseOf host'.poll n chain options) := ⟨rfl, rfl, h.matches.poll hR⟩
  exact h.matches.upToRestore hR hcourse chain
    (.at s.app.settings scope (s.document n).language) (held s) (held s) ⟨rfl, rfl⟩

theorem Hears.held_upToRestoration (h : host.Hears host') (n : Nat) (chain : Chain)
    (options : RunOptions) (scope : Scope) (s : Session) :
    (host'.upToRestoration n chain options scope s).2.app.guard.held = true := by
  obtain ⟨-, hsame, hheld⟩ := h.upToRestoration n chain options scope s
  have hguard : (host'.upToRestoration n chain options scope s).2.app.guard =
      (host.upToRestoration n chain options scope s).2.app.guard :=
    congrArg (fun s => s.app.guard) hsame
  rw [hguard]
  exact Session.held_of_heldAt_zero hheld

/-- The guard does not become free. -/
def KeepsGuard (s s' : Session) : Prop := s.app.guard.held = true → s'.app.guard.held = true

instance : IsPreorder Session KeepsGuard where
  refl _ := id
  trans _ _ _ h h' := h' ∘ h

theorem keepsGuard_of_matches {α : Type} {x y : Action α}
    (h : Action.Matches (AgreeWhile (HeldAt 0)) x y) : Action.Leads KeepsGuard y := by
  intro s hheld
  obtain ⟨-, hsame, hstill⟩ := h s s ⟨rfl, Session.heldAt_zero_of_held hheld⟩
  have hguard : (y s).2.app.guard = (x s).2.app.guard := congrArg (fun s => s.app.guard) hsame
  rw [hguard]
  exact Session.held_of_heldAt_zero hstill

/-- Those who are active during a run leave the guard to it. -/
theorem Hears.covers (h : host.Hears host') (n : Nat) : host'.Covers n KeepsGuard := by
  refine ⟨fun s s' hsaid hheld => hsaid.app ▸ hheld, fun s s' hmove => ?_, fun _ _ _ => id,
    fun _ _ => id⟩
  cases hmove with
  | sleep s millis => exact keepsGuard_of_matches (h.matches.meanwhile millis) s
  | @format id formatter hget request s =>
    have hrel := h.matches.formatters id
    rw [hget] at hrel
    generalize host.formatters.get? id = found at hrel
    cases hrel with
    | some hmatches => exact keepsGuard_of_matches (hmatches.format request) s

/-- Whenever the editor is asked, and the formatter is named before that, the guard is held. -/
theorem Hears.held_askings (h : host.Hears host') (n : Nat) (chain : Chain) (options : RunOptions)
    (s : Session) :
    ∀ asking ∈ host'.askings n chain options s,
      asking.named.app.guard.held = true ∧ asking.asked.app.guard.held = true := by
  have hcovers := h.covers n
  rcases askings_cases host' n chain options s with
    ⟨-, hnone⟩ | ⟨scope, announced, told, -, hannounced, htold, htells, -⟩
  · simp [hnone]
  · rw [htells]
    refine htold.forall chain.ids (I := fun _ s => s.app.guard.held = true) ?_ ?_ (fun _ h => h) ?_
    · intro slot slot' s announced settings index id fingerprint _ hsaid _ hheld
      have hnamed : announced.app.guard.held = true := hsaid.app ▸ hheld
      have hconfirm : (courseOf host'.poll n chain options).confirm = host'.poll := rfl
      obtain ⟨hasked, hended, htells, -⟩ := askStep_spec hcovers hconfirm slot' index id fingerprint
        { announced with app := { announced.app with settings } }
      exact ⟨⟨htells ▸ hnamed, hasked hnamed⟩, hended hnamed⟩
    · exact fun _ s s' _ hheld hsaved => hcovers.savedIf hsaved hheld
    · exact hannounced.app ▸ rfl

/-- If the run restores its setting, this is not refused. -/
def IsRestored (host : Host) (n : Nat) (chain : Chain) (options : RunOptions) (s : Session) :
    Prop :=
  ∀ scope, s.app.guard.held = false → (s.document n).isDirty = true → chain.ids ≠ [] →
    s.app.settings.narrowestScope? = some scope →
      let stepped := host.upToRestoration n chain options scope s
      ∃ settings, stepped.1.slot.restore stepped.2.app.settings = .ok settings

theorem Hears.isRestored (h : host.Hears host') {chain : Chain} {options : RunOptions}
    (hrestored : host'.IsRestored n chain options s) : host.IsRestored n chain options s := by
  intro scope hfree hdirty hchain hscope
  obtain ⟨settings, hrestore⟩ := hrestored scope hfree hdirty hchain hscope
  obtain ⟨hstepping, hsame, -⟩ := h.upToRestoration n chain options scope s
  have hsettings := congrArg (fun s => s.app.settings) hsame
  rw [hstepping] at hrestore
  exact ⟨settings, hsettings ▸ hrestore⟩

/-- **At its end a run has put the value from the start back into its setting**, if that was not
refused. -/
theorem raw?_fromRestore (host : Host) {n : Nat} {chain : Chain} {options : RunOptions}
    {scope : Scope} {settings : Settings}
    (haccepted : (host.upToRestoration n chain options scope s).1.slot.restore
      (host.upToRestoration n chain options scope s).2.app.settings = .ok settings) :
    let stepped := host.upToRestoration n chain options scope s
    let language := (s.document n).language
    (fromRestore (courseOf host.poll n chain options) (s.document n).text stepped.1
      stepped.2).2.app.settings.raw? scope Settings.Key.defaultFormatter language =
        s.app.settings.raw? scope Settings.Key.defaultFormatter language := by
  obtain ⟨hscope, hlanguage, hfound, huntouched⟩ :=
    upToRestoration_slot host n chain options scope s
  have hrestored := restore_raw?_of_accepted haccepted fun h => by
    rw [huntouched h, hscope, hlanguage, hfound]
  rw [hscope, hlanguage, hfound] at hrestored
  intro stepped language
  rw [fromRestore_app]
  exact hrestored

end Host

/-! ## What a run leaves in the settings -/

namespace Settings

/-- Which values may stand where. -/
abbrev Entries := Scope → String → Option String → Value → Prop

/-- Each value of the second settings stands in the first ones, at the same place, or is one of
these entries. -/
def AddsOnly (written : Entries) (before after : Settings) : Prop :=
  ∀ scope key language value, after.raw? scope key language = some value →
    written scope key language value ∨ before.raw? scope key language = some value

theorem AddsOnly.refl (written : Entries) (settings : Settings) :
    AddsOnly written settings settings := fun _ _ _ _ h => .inr h

theorem AddsOnly.trans {written : Entries} {a b c : Settings} (h : AddsOnly written a b)
    (h' : AddsOnly written b c) : AddsOnly written a c := fun scope key language value hvalue =>
  (h' scope key language value hvalue).elim .inl (h scope key language value)

end Settings

namespace Host

open Settings (Entries AddsOnly)

variable {host host' : Host} {n : Nat} {written : Entries} {s s' : Session}

/-- All that others write to the settings is one of these entries. -/
def Writes (host : Host) (written : Entries) : Prop :=
  ∀ s s', host.Others s s' → AddsOnly written s.app.settings s'.app.settings

/-- At any place but the one of its slot, a run leaves what was there or what others wrote. -/
theorem Moves.adds {scope : Scope} {language : String} (h : host.Moves n scope language s s')
    (hwrites : host.Writes written) {scope' : Scope} {key : String} {language' : Option String}
    {value : Value}
    (hplace :
      ¬ (scope' = scope ∧ key = Settings.Key.defaultFormatter ∧ language' = some language))
    (hvalue : s'.app.settings.raw? scope' key language' = some value) :
    written scope' key language' value ∨
      s.app.settings.raw? scope' key language' = some value := by
  induction h with
  | refl => exact .inr hvalue
  | tail _ hmove ih =>
    cases hmove with
    | others h => exact (hwrites _ _ h _ _ _ _ hvalue).elim .inl ih
    | own h =>
      rw [h.raw? hplace] at hvalue
      exact ih hvalue

/-- **What a run leaves in the settings** was there before it, or was written by others, if putting
back the active formatter was not refused. -/
theorem run_addsOnly (hwrites : host.Writes written) (chain : Chain) (options : RunOptions)
    (haccepted : host.IsRestored n chain options s) :
    AddsOnly written s.app.settings (host.run n chain options s).2.app.settings := by
  have hran := runWith_ran host host.poll n chain options s
  change Ran _ _ _ _ _ _ (host.run n chain options s).1 (host.run n chain options s).2 at hran
  generalize (host.run n chain options s).1 = report at hran
  generalize (host.run n chain options s).2 = ended at hran ⊢
  cases hran with
  | alreadyRunning _ hsaid =>
    rw [hsaid.app]
    exact .refl _ _
  | notDirty _ _ hsaid | emptyChain _ _ _ hsaid | uncaptured _ _ _ _ hsaid =>
    rw [released, hsaid.app]
    exact .refl _ _
  | @completed slot stepping stepped ended report hfree hdirty hchain hacquire hstepped hended =>
    obtain ⟨scope, hscope, rfl⟩ := Slot.acquire_eq_ok_iff.1 hacquire
    obtain ⟨settings, hrestore⟩ := haccepted scope hfree hdirty hchain hscope
    have hback := raw?_fromRestore host hrestore
    obtain ⟨hslotScope, hslotLanguage, -⟩ := upToRestoration_slot host n chain options scope s
    rw [show host.upToRestoration n chain options scope s = (stepping, stepped) from hstepped]
      at hback hslotScope hslotLanguage
    dsimp only at hback hslotScope hslotLanguage
    have hconfirm : (courseOf host.poll n chain options).confirm = host.poll := rfl
    have hmoves := upToRestore_moves hconfirm chain
      (.at s.app.settings scope (s.document n).language) (held s)
    have hown := fromRestore_ownMoves (courseOf host.poll n chain options) (s.document n).text
      stepping stepped
    rw [hstepped] at hmoves
    rw [hslotScope, hslotLanguage, hended] at hown
    rw [hended] at hback
    intro scope' key language' value hvalue
    by_cases hplace : scope' = scope ∧ key = Settings.Key.defaultFormatter ∧
      language' = some (s.document n).language
    · obtain ⟨rfl, rfl, rfl⟩ := hplace
      exact .inr (hback.symm.trans hvalue)
    · exact Moves.adds (hmoves.trans hown.moves) hwrites hplace hvalue

/-! ## One thing after the other -/

/-- What goes on with an application, from one session to another: runs, changes, and what it hears
of.  The settings of each scan that it makes when it hears of something are told. -/
inductive Timeline (written : Entries) : Session → List Settings → Session → Prop
  /-- Nothing goes on any more. -/
  | done {s : Session} : Timeline written s [] s
  /-- A run comes and goes. Its formatters, and those who are active meanwhile, may start runs and
  let the application hear of changes. -/
  | run {host host' : Host} {n : Nat} {chain : Chain} {options : RunOptions} {s s' : Session}
      {scanned : List Settings} (hhears : host.Hears host') (hwrites : host.Writes written)
      (haccepted : host'.IsRestored n chain options s)
      (hrest : Timeline written (host'.run n chain options s).2 scanned s') :
      Timeline written s scanned s'
  /-- The application hears of a change. -/
  | heard {keys : List String} {s s' : Session} {scanned : List Settings}
      (hrest : Timeline written
        (Application.onConfigurationChanged s.app.settings keys s).2 scanned s') :
      Timeline written s
        ((Application.onConfigurationChanged s.app.settings keys s).1.toList.map
          (fun _ => s.app.settings) ++ scanned) s'
  /-- Somebody else does something. -/
  | others {s between s' : Session} {scanned : List Settings}
      (hwrites : AddsOnly written s.app.settings between.app.settings)
      (hrest : Timeline written between scanned s') : Timeline written s scanned s'

/-- **No scan sees what a run named**: all that it reads was there at the start, or was written by
others. -/
theorem Timeline.addsOnly {scanned : List Settings} (h : Timeline written s scanned s') :
    ∀ settings ∈ scanned, AddsOnly written s.app.settings settings := by
  induction h with
  | done => simp
  | @run host host' n chain options s s' scanned hhears hwrites haccepted _ ih =>
    obtain ⟨-, hsession⟩ := hhears.run n chain options s
    have hran := run_addsOnly hwrites chain options (hhears.isRestored haccepted)
    have happ : (host'.run n chain options s).2.app = (host.run n chain options s).2.app :=
      congrArg (fun s => s.app) hsession
    rw [← happ] at hran
    exact fun settings hmem => hran.trans (ih settings hmem)
  | @heard keys s s' scanned _ ih =>
    rw [Application.settings_onConfigurationChanged] at ih
    intro settings hmem
    rcases List.mem_append.1 hmem with hmem | hmem
    · obtain ⟨_, -, rfl⟩ := List.mem_map.1 hmem
      exact .refl _ _
    · exact ih settings hmem
  | others hwrites _ ih => exact fun settings hmem => hwrites.trans (ih settings hmem)

/-- **What a run names for a while is never scanned.**  While the guard is held, an application that
hears of changed keys, whichever they are, reports nothing, and only remarks on the change: its
record is as it was, and nobody is notified.  So take an editor, and the same one of which the
formatters and sleeps let the application hear of changes, as often as they like, or start further
runs.  A run of the second has the report of a run of the first, and leaves the same session up to
remarks, and the guard is held from when a formatter is named until after the editor was asked.

When the guard becomes free the setting already has the value that was found in it, whichever way
the run ended, if putting it back was not refused.  So over any sequence of runs, changes by others,
and changes of which the application hears, each value that a scan reads was there at the start, or
was written by others. -/
theorem run_hears_nothing {host host' : Host} (hhears : host.Hears host') (n : Nat)
    (chain : Chain) (options : RunOptions) (s : Session) :
    let plain := host.run n chain options s
    let hearing := host'.run n chain options s
    (∀ settings keys t, t.app.guard.held = true →
      let heard := Application.onConfigurationChanged settings keys t
      heard.1 = none ∧ heard.2.app.conflicted = t.app.conflicted ∧
        heard.2.notifications = t.notifications ∧ WithEvents t heard.2) ∧
    hearing.1 = plain.1 ∧ hearing.2.unremarked = plain.2.unremarked ∧
    (∀ asking ∈ host'.askings n chain options s,
      asking.named.app.guard.held = true ∧ asking.asked.app.guard.held = true) ∧
    (∀ scope settings, s.app.guard.held = false → (s.document n).isDirty = true →
      chain.ids ≠ [] → s.app.settings.narrowestScope? = some scope →
        let stepped := host'.upToRestoration n chain options scope s
        stepped.1.slot.restore stepped.2.app.settings = .ok settings →
          ∃ ended, hearing.2 = released ended ∧ ended.app.guard.held = true ∧
            ended.app.settings.raw? scope Settings.Key.defaultFormatter (s.document n).language =
              s.app.settings.raw? scope Settings.Key.defaultFormatter (s.document n).language) ∧
    ∀ (written : Entries) (t t' : Session) (scanned : List Settings),
      Timeline written t scanned t' →
        ∀ settings ∈ scanned, AddsOnly written t.app.settings settings := by
  intro plain hearing
  obtain ⟨hreport, hsession⟩ := hhears.run n chain options s
  refine ⟨fun settings keys t hheld => ?_, hreport, hsession,
    hhears.held_askings n chain options s,
    fun scope settings hfree hdirty hchain hscope hrestore => ?_,
    fun _ _ _ _ htimeline => htimeline.addsOnly⟩
  · obtain ⟨hnone, hsaid, hsame⟩ :=
      Application.onConfigurationChanged_held settings keys hheld
    refine ⟨hnone, congrArg App.conflicted hsaid.app, ?_, hsaid⟩
    rw [← Session.notifications_unremarked, hsame, Session.notifications_unremarked]
  · have hran : hearing = _ := run_eq host' options hfree hdirty hchain hscope
    refine ⟨_, congrArg Prod.snd hran, ?_, raw?_fromRestore host' hrestore⟩
    rw [fromRestore_app, (restore_ok hrestore).app]
    exact hhears.held_upToRestoration n chain options scope s

/-- The editor formats the language on save, so the formatter that a run names would be a conflict.
The application hears of it while the formatter formats, and again after the run. -/
theorem run_hears_nothing_of_its_formatter :
    let answer (report : Option Conflict.ScanReport) : Action (Except Failure FormatOutput) := do
      Action.record (.configurationChanged report)
      return .ok (.text "b")
    let format (x : Action (Option Conflict.ScanReport)) : Formatter :=
      { id := "fmtA", onDisk := false, format := fun _ => ExceptT.mk (x >>= answer) }
    let keys := ["[rust].editor.defaultFormatter"]
    let plain : Host := ⟨.ofFormatters [format (pure none)], fun _ => pure ()⟩
    let hearing : Host := ⟨.ofFormatters [format do
      Application.onConfigurationChanged (← get).app.settings keys], fun _ => pure ()⟩
    let chain : Chain := ⟨["fmtA"], by decide⟩
    let options : RunOptions := ⟨50, false, false, ⟨3, 10⟩⟩
    let onSave := Settings.Layer.empty.set Settings.Key.formatOnSave (some "rust")
      (some (.bool true))
    let s : Session :=
      { app := { settings := { layers := { workspace := some onSave } } }
        documents := [⟨⟨"/a.rs"⟩, "rust", "a", none, .memory, 1⟩] }
    let after := (hearing.run 0 chain options s).2
    plain.Hears hearing ∧
      (Conflict.scan (hearing.upToRestoration 0 chain options .workspace s).2.app.settings
        .empty).value.report.newConflicts = [⟨"rust", "fmtA"⟩] ∧
      after.app.conflicted = .empty ∧ after.notifications = [] ∧
      (Application.onConfigurationChanged after.app.settings keys after).1 = some {} ∧
      after.app.settings.raw? .workspace Settings.Key.defaultFormatter (some "rust") = none := by
  intro answer format keys plain hearing chain options onSave s after
  have hget : ∀ (x : Action (Option Conflict.ScanReport)) (id : String),
      (Registry.ofFormatters [format x]).get? id = if "fmtA" = id then some (format x) else none :=
    fun x id => OrderedMap.get?_set .empty "fmtA" id (format x)
  have hanswer : Action.Nests 0 (answer none) (answer none) :=
    .same (((agreeWhile_congruence _).matches_record _).bind fun _ => Action.matches_pure _)
  have hhears : plain.Hears hearing :=
    { meanwhile := fun _ => .nests (.same (Action.matches_pure ()))
      kinds := fun id => by
        rw [hget, hget]
        split
        · rfl
        · rfl
      format := fun {id f f'} hf hf' request => by
        rw [hget] at hf hf'
        split at hf
        · next hid =>
          rw [if_pos hid] at hf'
          obtain rfl := Option.some.inj hf
          obtain rfl := Option.some.inj hf'
          exact .hear (f := answer) (fun s => s.app.settings) keys (.nests hanswer)
        · exact absurd hf (by simp) }
  obtain ⟨-, -, hsession, -, hback, -⟩ := run_hears_nothing hhears 0 chain options s
  have hconflicted : after.app.conflicted = (plain.run 0 chain options s).2.app.conflicted :=
    congrArg (fun s => s.app.conflicted) hsession
  have hnotified : after.notifications = (plain.run 0 chain options s).2.notifications := by
    rw [← Session.notifications_unremarked, hsession, Session.notifications_unremarked]
  refine ⟨hhears, by decide +kernel, ?_, ?_, by decide +kernel, ?_⟩
  · rw [hconflicted]
    rfl
  · rw [hnotified]
    rfl
  · obtain ⟨ended, hended, -, hraw⟩ := hback .workspace _ rfl rfl (by decide) rfl rfl
    change after = released ended at hended
    rw [hended]
    exact hraw

end Host

end FormatChain
