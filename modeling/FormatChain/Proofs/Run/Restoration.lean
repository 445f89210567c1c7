import FormatChain.Proofs.Run.Moves
import Mathlib.Tactic.Set

/-!
# The active formatter after a run

A run names formatters in a setting and puts back at the end what it found there.  It remembers the
value from the start, and whether it has written the setting; formatters may write the same setting
in between, or mark its layer against writing.

* `Host.Stepped.slot_cases` : what a run remembers while its formatters run.
* `Host.upToRestoration` : a run up to the moment at which it puts the value back.
* `Host.run_restores` : after the run the setting has the value that it had before.
-/

namespace FormatChain

open FormatChain.Json
open FormatChain.Settings (Scope)
open FormatChain.Session (WithEvents)
open Relation (ReflTransGen)

/-- The settings have the same raw values, except for the active formatter of a language at a
scope. -/
def Settings.AgreeExcept (scope : Scope) (language : String) (before after : Settings) : Prop :=
  ∀ scope' key language',
    ¬ (scope' = scope ∧ key = Settings.Key.defaultFormatter ∧ language' = some language) →
      after.raw? scope' key language' = before.raw? scope' key language'

namespace Host

variable {host : Host} {course : Course} {n : Nat} {scope : Scope} {language : String}
  {s s' : Session}

/-! ## While the formatters run -/

/-- A slot that was not written since stands for a run that has done nothing, and a slot that was
written remembers the value from the start. -/
theorem Stepped.slot_cases {index : Nat} {ids : List String} {slot : Slot}
    {fingerprint : Fingerprint} {stepping : Stepping}
    (h : Stepped host course index ids slot fingerprint s stepping s') :
    stepping.slot = slot ∧ WithEvents s s' ∨ stepping.slot = { slot with modified := true } := by
  induction h with
  | done => exact .inl ⟨rfl, refl _⟩
  | cancelled _ hsaid => exact .inl ⟨rfl, hsaid⟩
  | refused _ _ hsaid => exact .inl ⟨rfl, hsaid⟩
  | unsaved _ _ hactivate _ _ => exact .inr (Slot.activate_eq_ok_iff.1 hactivate).1
  | goesOn _ _ hactivate _ _ _ ih =>
    obtain ⟨rfl, -⟩ := Slot.activate_eq_ok_iff.1 hactivate
    rcases ih with ⟨h, -⟩ | h
    · exact .inr h
    · exact .inr h

/-! ## From the restoration on -/

/-- A restoration of a setting that can be written is accepted. -/
theorem restore_accepted {slot : Slot} {settings : Settings}
    (hwritable : settings.IsWritable slot.scope) :
    ∃ restored, slot.restore settings = .ok restored := by
  cases hmodified : slot.modified with
  | false => exact ⟨settings, Slot.restore_eq_ok_iff.2 (.inr ⟨hmodified, rfl⟩)⟩
  | true =>
    obtain ⟨restored, hset⟩ :=
      hwritable.setRaw Settings.Key.defaultFormatter (some slot.language) slot.found
    exact ⟨restored, Slot.restore_eq_ok_iff.2 (.inl ⟨hmodified, hset⟩)⟩

/-- A restoration that is accepted leaves the value that was found. -/
theorem restore_raw?_of_accepted {slot : Slot} {settings : Settings}
    (haccepted : slot.restore s.app.settings = .ok settings)
    (huntouched : slot.modified = false →
      s.app.settings.raw? slot.scope Settings.Key.defaultFormatter slot.language = slot.found) :
    (restore slot s).2.app.settings.raw? slot.scope Settings.Key.defaultFormatter slot.language =
      slot.found := by
  rw [(restore_ok haccepted).app]
  rcases Slot.restore_eq_ok_iff.1 haccepted with ⟨-, hset⟩ | ⟨hmodified, rfl⟩
  · exact (Settings.raw?_setRaw hset _ _ _).trans (if_pos ⟨rfl, rfl, rfl⟩)
  · exact huntouched hmodified

/-- If the setting can be written at the restoration it has the value that was found in it. -/
theorem restore_raw? (slot : Slot) (hwritable : s.app.settings.IsWritable slot.scope)
    (huntouched : slot.modified = false →
      s.app.settings.raw? slot.scope Settings.Key.defaultFormatter slot.language = slot.found) :
    (restore slot s).2.app.settings.raw? slot.scope Settings.Key.defaultFormatter slot.language =
      slot.found := by
  obtain ⟨settings, haccepted⟩ := restore_accepted hwritable
  exact restore_raw?_of_accepted haccepted huntouched

/-- A restoration that is refused changes no setting. -/
theorem restore_settings_of_refused {slot : Slot}
    (hrefused : ¬ s.app.settings.IsWritable slot.scope) :
    (restore slot s).2.app.settings = s.app.settings := by
  cases hrestore : slot.restore s.app.settings with
  | error e => rw [(restore_error hrestore).app]
  | ok settings =>
    rw [(restore_ok hrestore).app]
    rcases Slot.restore_eq_ok_iff.1 hrestore with ⟨-, hset⟩ | ⟨-, rfl⟩
    · exact absurd (Settings.isWritable_of_setRaw hset) hrefused
    · rfl

theorem Saved.app {result : Except Failure Unit} (h : Saved n s result s') : s'.app = s.app := by
  cases h with
  | remembered _ hsaid => exact hsaid.app
  | written _ _ hsaid => exact hsaid.app
  | refused _ _ hsaid => exact hsaid.app

theorem SavedIf.app {wanted : Prop} {cause : Option Failure} (h : SavedIf n wanted s cause s') :
    s'.app = s.app := by
  cases h with
  | unwanted _ => rfl
  | saved _ hsave => exact hsave.app
  | refused _ hsave hsaid => exact hsaid.app.trans hsave.app

/-- Nothing after the restoration touches settings or the guard. -/
theorem fromRestore_app (original : String) (stepping : Stepping) :
    (fromRestore course original stepping s).2.app = (restore stepping.slot s).2.app := by
  obtain ⟨cause, saved, hsave, hsaid, -⟩ := fromRestore_cases course original stepping s
  exact hsaid.app.trans hsave.app

/-- A failure of the formatters is the one that is reported. -/
theorem fromRestore_failure (original : String) {stepping : Stepping}
    (h : stepping.failure.isSome = true) :
    (fromRestore course original stepping s).1.failure = stepping.failure := by
  obtain ⟨cause, saved, hsave, -, hreport⟩ := fromRestore_cases course original stepping s
  rw [hreport]
  cases hsave with
  | unwanted _ => rfl
  | saved _ _ => rfl
  | refused hwanted _ _ =>
    obtain ⟨-, -, hnone, -⟩ := hwanted
    rw [hnone] at h
    exact absurd h (by simp)

/-! ## Whole runs -/

/-- A run up to the moment at which it restores the setting: what its formatters came to, and the
session at that moment. -/
def upToRestoration (host : Host) (n : Nat) (chain : Chain) (options : RunOptions)
    (scope : Scope) (s : Session) : Stepping × Session :=
  host.upToRestore (courseOf host.poll n chain options) chain
    (.at s.app.settings scope (s.document n).language) (held s)

/-- A run that is not skipped does what it does up to that moment, and goes on from there. -/
theorem run_eq (host : Host) {chain : Chain} (options : RunOptions)
    (hfree : s.app.guard.held = false) (hdirty : (s.document n).isDirty = true)
    (hchain : chain.ids ≠ []) (hscope : s.app.settings.narrowestScope? = some scope) :
    host.run n chain options s =
      let stepped := host.upToRestoration n chain options scope s
      let ended := fromRestore (courseOf host.poll n chain options) (s.document n).text stepped.1
        stepped.2
      (ended.1, released ended.2) :=
  runWith_eq hfree hdirty hchain (Slot.acquire_of_narrowest hscope (s.document n).language)

theorem OwnMove.agreeExcept (h : OwnMove n scope language s s') :
    Settings.AgreeExcept scope language s.app.settings s'.app.settings :=
  fun _ _ _ hplace => h.raw? hplace

theorem Moves.agreeExcept (h : host.Moves n scope language s s') :
    ReflTransGen (fun a b => host.Others a b ∨
      Settings.AgreeExcept scope language a.app.settings b.app.settings) s s' := by
  refine ReflTransGen.mono (fun a b hmove => ?_) _ _ h
  cases hmove with
  | others h => exact .inl h
  | own h => exact .inr h.agreeExcept

theorem OwnMoves.agreeExcept (h : OwnMoves n scope language s s') :
    ReflTransGen (fun a b => Settings.AgreeExcept scope language a.app.settings b.app.settings)
      s s' :=
  ReflTransGen.mono (fun _ _ hmove => OwnMove.agreeExcept hmove) _ _ h

/-- What a run remembers of its setting at the moment at which it restores it. -/
theorem upToRestoration_slot (host : Host) (n : Nat) (chain : Chain) (options : RunOptions)
    (scope : Scope) (s : Session) :
    let stepped := host.upToRestoration n chain options scope s
    let language := (s.document n).language
    stepped.1.slot.scope = scope ∧ stepped.1.slot.language = language ∧
      stepped.1.slot.found =
        s.app.settings.raw? scope Settings.Key.defaultFormatter language ∧
      (stepped.1.slot.modified = false → stepped.2.app.settings = s.app.settings) := by
  obtain ⟨announced, hannounced, hstepped⟩ := upToRestore_stepped host
    (courseOf host.poll n chain options) chain
    (.at s.app.settings scope (s.document n).language) (held s)
  intro stepped language
  change Stepped _ _ _ _ _ _ _ stepped.1 stepped.2 at hstepped
  rcases hstepped.slot_cases with ⟨hslot, hsaid⟩ | hslot
  · rw [hslot]
    refine ⟨rfl, rfl, rfl, fun _ => ?_⟩
    rw [hsaid.app, hannounced.app]
    rfl
  · rw [hslot]
    exact ⟨rfl, rfl, rfl, fun h => absurd h (by simp)⟩

/-- **A run gives the active formatter back.**  Take a run on a document with unsaved changes, a
chain that is not empty, and the narrowest scope at the start.  If another run holds the guard,
nothing but a remark is made.  Otherwise, if the scope's layer may be written when the run restores
the setting of the document's language, then after the run the setting has the raw value that it
had before, or none if it had none.  If the layer may not be written, the restoration changes no
setting.  In both cases the run ends with a report of what its formatters came to, and the guard is
free.  Whatever formatters do in between, each move of the run itself leaves all other raw values as
they are. -/
theorem run_restores (host : Host) (n : Nat) (chain : Chain) (options : RunOptions) (s : Session)
    (scope : Scope) (hscope : s.app.settings.narrowestScope? = some scope)
    (hdirty : (s.document n).isDirty = true) (hchain : chain.ids ≠ []) :
    let language := (s.document n).language
    let stepped := host.upToRestoration n chain options scope s
    let ran := host.run n chain options s
    (s.app.guard.held = true → ran.1 = .skipped .alreadyRunning ∧ WithEvents s ran.2) ∧
    (s.app.guard.held = false →
      (stepped.2.app.settings.IsWritable scope →
        ran.2.app.settings.raw? scope Settings.Key.defaultFormatter (some language) =
          s.app.settings.raw? scope Settings.Key.defaultFormatter (some language)) ∧
      (¬ stepped.2.app.settings.IsWritable scope →
        ran.2.app.settings = stepped.2.app.settings) ∧
      ran.1.steps = stepped.1.steps ∧ ran.1.cancelled = stepped.1.cancelled ∧
      (stepped.1.failure.isSome → ran.1.failure = stepped.1.failure) ∧
      (∀ reason, ran.1.edit ≠ .skipped reason) ∧
      ran.2.app.guard.held = false ∧
      ReflTransGen (fun a b => host.Others a b ∨
        Settings.AgreeExcept scope language a.app.settings b.app.settings) s stepped.2 ∧
      ReflTransGen (fun a b => Settings.AgreeExcept scope language a.app.settings b.app.settings)
        stepped.2 ran.2) := by
  intro language stepped ran
  refine ⟨runWith_of_held host host.poll n chain options, fun hfree => ?_⟩
  set course := courseOf host.poll n chain options
  set ended := fromRestore course (s.document n).text stepped.1 stepped.2 with hended
  have hran : ran = (ended.1, released ended.2) :=
    runWith_eq hfree hdirty hchain (Slot.acquire_of_narrowest hscope language)
  obtain ⟨hslotScope, hslotLanguage, hfound, huntouched⟩ :=
    upToRestoration_slot host n chain options scope s
  change stepped.1.slot.scope = _ at hslotScope
  change stepped.1.slot.language = _ at hslotLanguage
  have hsettings : ran.2.app.settings = (restore stepped.1.slot stepped.2).2.app.settings := by
    rw [hran]
    change ended.2.app.settings = _
    rw [hended, fromRestore_app]
  obtain ⟨cause, saved, hsave, -, hreport⟩ :=
    fromRestore_cases course (s.document n).text stepped.1 stepped.2
  refine ⟨fun hwritable => ?_, fun hrefused => ?_, ?_, ?_, fun hfailed => ?_, fun reason => ?_, ?_,
    Moves.agreeExcept (n := n) ?_, OwnMoves.agreeExcept (n := n) ?_⟩
  · have hrestored := restore_raw? (s := stepped.2) stepped.1.slot
      (hslotScope ▸ hwritable) fun h => by rw [huntouched h, hslotScope, hslotLanguage, hfound]
    rw [hslotScope, hslotLanguage] at hrestored
    rw [hsettings, hrestored, hfound]
  · rw [hsettings]
    exact restore_settings_of_refused (hslotScope ▸ hrefused)
  · rw [hran, hended, hreport]
  · rw [hran, hended, hreport]
  · rw [hran]
    exact fromRestore_failure _ hfailed
  · rw [hran]
    exact fromRestore_edit _ _ _ _ reason
  · rw [hran]
    rfl
  · refine .trans (.single (.own (.guard s ⟨true⟩))) ?_
    have hconfirm : course.confirm = host.poll := rfl
    exact upToRestore_moves hconfirm chain (.at s.app.settings scope language) (held s)
  · rw [hran]
    have hmoves := fromRestore_ownMoves course (s.document n).text stepped.1 stepped.2
    rw [hslotScope, hslotLanguage] at hmoves
    exact hmoves.tail (.guard ended.2 ended.2.app.guard.release)

/-- A language without an active formatter has none after a run that named one meanwhile. -/
theorem run_restores_absent_value :
    let host : Host := ⟨.empty, fun _ => pure ()⟩
    let chain : Chain := ⟨["rustfmt"], by decide⟩
    let options : RunOptions := ⟨0, true, true, ⟨1, 0⟩⟩
    let s : Session :=
      { app := { settings := { layers := { workspace := some .empty } } }
        documents := [⟨⟨"/a.rs"⟩, "rust", "fn a() {}", none, .memory, 1⟩] }
    s.app.settings.narrowestScope? = some .workspace ∧ (s.document 0).isDirty = true ∧
      chain.ids ≠ [] ∧
      (host.upToRestoration 0 chain options .workspace s).2.app.settings.raw? .workspace
        Settings.Key.defaultFormatter (some "rust") = some (.string "rustfmt") ∧
      (host.run 0 chain options s).2.app.settings.raw? .workspace
        Settings.Key.defaultFormatter (some "rust") = none := by
  intro host chain options s
  refine ⟨rfl, rfl, by decide, rfl, ?_⟩
  exact ((run_restores host 0 chain options s .workspace rfl rfl (by decide)).2 rfl).1 ⟨_, rfl, rfl⟩

end Host

end FormatChain
