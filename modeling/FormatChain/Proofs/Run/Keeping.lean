import FormatChain.Proofs.Run.Restoration
import FormatChain.Proofs.Settings.Rewriting

/-!
# Runs among others who keep the settings

What holds across the step of a formatter follows from what holds across each thing that goes on in
it.  If others keep the settings, then all that changes them is the run itself, which names
formatters at one place and puts back what it found there.

* `Host.Covers`, `Host.Covers.runStep` : a relation that holds across a step.
* `Host.KeepsSettings` : others keep the settings.
* `Slot.Holds`, `Host.Stepped.holds` : the layers while the formatters run.
* `Host.NamesFormatters`, `Host.layers_run` : the layers after a run.
-/

namespace FormatChain

open FormatChain.Json
open FormatChain.Session (WithEvents)
open FormatChain.Settings (Scope Layer PerScope)

variable {host : Host} {course : Course} {n : Nat} {slot slot' : Slot} {s s' : Session}
  {R : Session → Session → Prop}

namespace Host

/-! ## Across a step -/

/-- The relation holds of the two ends of whatever goes on in the step of a formatter: something is
said, others make a move, the document gets another text, and a file is written. -/
structure Covers (host : Host) (n : Nat) (R : Session → Session → Prop) : Prop where
  saying : ∀ s s', WithEvents s s' → R s s'
  others : ∀ s s', host.Others s s' → R s s'
  change : ∀ s d, d.language = (s.document n).language → R s (s.putDocument n d)
  write : ∀ (s : Session) disk, R s { s with disk }

namespace Covers

theorem idles (h : host.Covers n R) : host.Idles R :=
  ⟨h.saying, fun millis s => h.others _ _ (.sleep s millis)⟩

variable [IsPreorder Session R]

theorem takeOutput (h : host.Covers n R) {output : FormatOutput} {result : Except Failure Unit}
    (htake : (takeOutput n output).run s = (result, s')) : R s s' := by
  cases output with
  | unchanged =>
    rw [run_takeOutput_unchanged] at htake
    obtain rfl : s = s' := (Prod.mk.inj htake).2
    exact refl s
  | text text =>
    rw [run_takeOutput_text] at htake
    obtain rfl := (Prod.mk.inj htake).2
    exact h.change s _ (by simp)
  | fileUpdated =>
    cases hread : s.read (s.document n).path with
    | error e =>
      obtain ⟨said, hsaid, hrun⟩ := run_takeOutput_unread hread
      rw [hrun] at htake
      obtain rfl : said = s' := (Prod.mk.inj htake).2
      exact h.saying _ _ hsaid
    | ok text =>
      obtain ⟨said, hsaid, hrun⟩ := run_takeOutput_reloaded hread
      rw [hrun] at htake
      obtain rfl := (Prod.mk.inj htake).2
      exact IsTrans.trans _ _ _ (h.saying _ _ hsaid) (h.change said _ (by simp))

theorem format (h : host.Covers n R) {settings : Settings} {l : String} {formatter : Formatter}
    {request : FormatRequest} {asked made : Session} {result : Except Failure FormatOutput}
    (hchoose : host.chooseFormatter settings l = .ok formatter) (hasked : WithEvents s asked)
    (hformat : (formatter.format request).run asked = (result, made)) : R s made := by
  obtain ⟨id, -, hid⟩ := chooseFormatter_eq_ok_iff.1 hchoose
  have hmove := Others.format hid request asked
  rw [hformat] at hmove
  exact IsTrans.trans _ _ _ (h.saying _ _ hasked) (h.others _ _ hmove)

theorem formatted (h : host.Covers n R) {result : Except Failure Unit}
    (hformatted : host.Formatted n s result s') : R s s' := by
  cases hformatted with
  | unchosen _ => exact refl s
  | failed hchoose hasked hformat => exact h.format hchoose hasked hformat
  | untaken hchoose hasked hformat htake =>
    exact IsTrans.trans _ _ _ (h.format hchoose hasked hformat) (h.takeOutput htake)
  | taken hchoose hasked hformat htake hsaid =>
    exact IsTrans.trans _ _ _ (h.format hchoose hasked hformat)
      (IsTrans.trans _ _ _ (h.takeOutput htake) (h.saying _ _ hsaid))

theorem saved (h : host.Covers n R) {result : Except Failure Unit} (hsaved : Saved n s result s') :
    R s s' := by
  cases hsaved with
  | remembered _ hsaid =>
    exact IsTrans.trans _ _ _ (h.change s _ (by simp)) (h.saying _ _ hsaid)
  | written _ _ hsaid =>
    refine IsTrans.trans _ _ _ (h.write s _) (IsTrans.trans _ _ _ (h.change _ _ ?_)
      (h.saying _ _ hsaid))
    rfl
  | refused _ _ hsaid => exact h.saying _ _ hsaid

theorem savedIf (h : host.Covers n R) {wanted : Prop} {cause : Option Failure}
    (hsaved : SavedIf n wanted s cause s') : R s s' := by
  cases hsaved with
  | unwanted _ => exact refl s
  | saved _ hsave => exact h.saved hsave
  | refused _ hsave hsaid => exact IsTrans.trans _ _ _ (h.saved hsave) (h.saying _ _ hsaid)

/-- **The step of a formatter** is covered. -/
theorem runStep (h : host.Covers course.document R) (hconfirm : course.confirm = host.poll)
    {index : Nat} {id : String} {fingerprint after : Fingerprint} {step : StepReport}
    (hran : host.runStep course slot index id fingerprint s = ((step, after), s')) : R s s' := by
  obtain ⟨asked, hasked, hconclude, -, -⟩ := runStep_spec h.idles hconfirm hran
  exact IsTrans.trans _ _ _ hasked (IsTrans.trans _ _ _
    (h.formatted (formatDocument_formatted host course.document asked)) hconclude)

end Covers

/-! ## Others who keep the settings -/

/-- The two sessions have the same settings. -/
def SameSettings (s s' : Session) : Prop := s'.app.settings = s.app.settings

instance : IsPreorder Session SameSettings where
  refl _ := rfl
  trans _ _ _ h h' := Eq.trans h' h

/-- No formatter, and nothing that goes on meanwhile, changes the settings. -/
def KeepsSettings (host : Host) : Prop := ∀ s s', host.Others s s' → SameSettings s s'

theorem KeepsSettings.covers (h : host.KeepsSettings) (n : Nat) : host.Covers n SameSettings where
  saying _ _ hsaid := congrArg App.settings hsaid.app
  others := h
  change _ _ _ := rfl
  write _ _ := rfl

end Host

/-! ## The layers while the formatters run -/

/-- The layers are the original ones as long as the slot was not written; after that they are the
original ones with some formatter named in the slot. -/
inductive Slot.Holds (original : Settings) (slot : Slot) (settings : Settings) : Prop
  | untouched (hmodified : slot.modified = false) (hlayers : settings.layers = original.layers)
  | named {layer : Layer} {id : String} (hmodified : slot.modified = true)
      (hlayer : original.layers.get? slot.scope = some layer) (hwritable : layer.readOnly = false)
      (hlayers : settings.layers = original.layers.set slot.scope
        (layer.set Settings.Key.defaultFormatter (some slot.language) (some (.string id))))

theorem Slot.acquire_eq_ok_iff {settings : Settings} {language : String} :
    Slot.acquire settings language = .ok slot ↔
      ∃ scope, settings.narrowestScope? = some scope ∧ slot = .at settings scope language := by
  rw [acquire]
  cases settings.narrowestScope? with
  | none => simp
  | some scope => simp [Slot.at, eq_comm]

namespace Slot.Holds

variable {original settings settings' : Settings}

/-- Naming another formatter comes to the same as naming it at once. -/
theorem activate {id : String} (h : slot.Holds original settings)
    (hactivate : slot.activate id settings = .ok (slot', settings')) :
    slot'.Holds original settings' := by
  obtain ⟨rfl, hset⟩ := Slot.activate_eq_ok_iff.1 hactivate
  obtain ⟨found, hfound, hwritable, rfl⟩ := Settings.setRaw_eq_ok_iff.1 hset
  cases h with
  | untouched _ hlayers =>
    rw [hlayers] at hfound
    exact .named rfl hfound hwritable (by rw [Settings.setLayer, hlayers])
  | @named layer other _ hlayer hreadOnly hlayers =>
    rw [hlayers, Settings.PerScope.get?_set, if_pos rfl] at hfound
    obtain rfl := Option.some.inj hfound
    have hnamed : (settings.setLayer slot.scope ((layer.set Settings.Key.defaultFormatter
        (some slot.language) (some (.string other))).set Settings.Key.defaultFormatter
          (some slot.language) (some (.string id)))).layers =
        original.layers.set slot.scope (layer.set Settings.Key.defaultFormatter
          (some slot.language) (some (.string id))) := by
      rw [Settings.setLayer, hlayers, Settings.PerScope.set_set, Layer.set_set]
    exact .named rfl hlayer hreadOnly hnamed

end Slot.Holds

/-- The layers without the block of the language at the scope, if that is empty. -/
def Settings.dropEmptyBlock (layers : PerScope Layer) (scope : Scope) (language : String) :
    PerScope Layer :=
  match layers.get? scope with
  | none => layers
  | some layer => layers.set scope (layer.dropEmptyBlock language)

/-- **Putting back what was found** is never refused, and leaves the original layers, except that an
empty block is gone if a formatter was named. -/
theorem Slot.Holds.restore {original settings : Settings} (h : slot.Holds original settings)
    (hfound : slot.found =
      original.raw? slot.scope Settings.Key.defaultFormatter slot.language) :
    ∃ settings', slot.restore settings = .ok settings' ∧ settings'.layers =
      if slot.modified then Settings.dropEmptyBlock original.layers slot.scope slot.language
      else original.layers := by
  cases h with
  | untouched hmodified hlayers =>
    exact ⟨settings, Slot.restore_eq_ok_iff.2 (.inr ⟨hmodified, rfl⟩), by
      rw [hlayers, hmodified]; rfl⟩
  | @named layer id hmodified hlayer hreadOnly hlayers =>
    have hnamed : settings.layers.get? slot.scope = some
        (layer.set Settings.Key.defaultFormatter (some slot.language) (some (.string id))) := by
      rw [hlayers, Settings.PerScope.get?_set, if_pos rfl]
    have hfound' : slot.found =
        layer.get? Settings.Key.defaultFormatter (some slot.language) := by
      rw [hfound, Settings.raw?, hlayer, Option.bind_some]
    have hwritable : settings.IsWritable slot.scope :=
      ⟨_, hnamed, (Layer.readOnly_set ..).trans hreadOnly⟩
    obtain ⟨settings', hset⟩ := hwritable.setRaw Settings.Key.defaultFormatter
      (some slot.language) slot.found
    obtain ⟨written, hwritten, -, rfl⟩ := Settings.setRaw_eq_ok_iff.1 hset
    obtain rfl := Option.some.inj (hnamed.symm.trans hwritten)
    refine ⟨_, Slot.restore_eq_ok_iff.2 (.inl ⟨hmodified, hset⟩), ?_⟩
    rw [if_pos hmodified, Settings.dropEmptyBlock, hlayer, Settings.setLayer, hlayers,
      Settings.PerScope.set_set, hfound', Layer.restored]

namespace Host

/-- While the formatters run the layers are the original ones, but for the slot. -/
theorem Stepped.holds (hkeeps : host.KeepsSettings) (hconfirm : course.confirm = host.poll)
    {index : Nat} {ids : List String} {fingerprint : Fingerprint} {stepping : Stepping}
    {original : Settings}
    (h : Stepped host course index ids slot fingerprint s stepping s')
    (hholds : slot.Holds original s.app.settings) :
    stepping.slot.Holds original s'.app.settings := by
  have hcovers := hkeeps.covers course.document
  induction h with
  | done => exact hholds
  | cancelled _ hsaid =>
    rw [hsaid.app]
    exact hholds
  | refused _ _ hsaid =>
    rw [hsaid.app]
    exact hholds
  | unsaved _ _ hactivate hran hsave =>
    have hkept := (hcovers.runStep hconfirm hran).symm
    rw [hsave.app, ← hkept]
    exact hholds.activate hactivate
  | goesOn _ _ hactivate hran hsave _ ih =>
    refine ih ?_
    have hkept := (hcovers.runStep hconfirm hran).symm
    rw [hsave.app, ← hkept]
    exact hholds.activate hactivate

/-- The first formatter is named if there is one, it is not too late, and the scope's layer may be
written. -/
theorem Stepped.modified_iff {index : Nat} {ids : List String} {fingerprint : Fingerprint}
    {stepping : Stepping} (h : Stepped host course index ids slot fingerprint s stepping s')
    (hslot : slot.modified = false) :
    stepping.slot.modified = true ↔
      ids ≠ [] ∧ s.cancelled = false ∧ s.app.settings.IsWritable slot.scope := by
  have hnamed {id : String} {slot' : Slot} {settings : Settings}
      (hactivate : slot.activate id s.app.settings = .ok (slot', settings)) :
      slot'.modified = true ∧ s.app.settings.IsWritable slot.scope := by
    obtain ⟨rfl, hset⟩ := Slot.activate_eq_ok_iff.1 hactivate
    exact ⟨rfl, Settings.isWritable_of_setRaw hset⟩
  cases h with
  | done => simp [hslot]
  | cancelled hcancelled _ => simp [hslot, hcancelled]
  | @refused _ id _ _ _ _ _ e _ hactivate _ =>
    have hunwritable : ¬ s.app.settings.IsWritable slot.scope := by
      intro hwritable
      obtain ⟨settings, hset⟩ := hwritable.setRaw Settings.Key.defaultFormatter
        (some slot.language) (some (.string id))
      simp [Slot.activate, hset] at hactivate
    simp [hslot, hunwritable]
  | unsaved hgoing _ hactivate _ _ =>
    obtain ⟨hmodified, hwritable⟩ := hnamed hactivate
    simp [hmodified, hgoing, hwritable]
  | goesOn hgoing _ hactivate _ _ hrest =>
    obtain ⟨hmodified, hwritable⟩ := hnamed hactivate
    rcases hrest.slot_cases with ⟨hsame, -⟩ | hnamed
    · simp [hsame, hmodified, hgoing, hwritable]
    · simp [hnamed, hgoing, hwritable]

/-! ## The layers after a run -/

/-- The run names a formatter at the scope. -/
structure NamesFormatters (n : Nat) (chain : Chain) (s : Session) (scope : Scope) : Prop where
  free : s.app.guard.held = false
  dirty : (s.document n).isDirty = true
  chain : chain.ids ≠ []
  going : s.cancelled = false
  narrowest : s.app.settings.narrowestScope? = some scope
  writable : s.app.settings.IsWritable scope

/-- The layers after a run that was not skipped, by whether a formatter was named. -/
theorem layers_fromRestore (hkeeps : host.KeepsSettings) {chain : Chain} {options : RunOptions}
    {scope : Scope} {stepping : Stepping} {stepped ended : Session} {report : RunReport}
    (hstepped : host.upToRestore (courseOf host.poll n chain options) chain
      (.at s.app.settings scope (s.document n).language) (held s) = (stepping, stepped))
    (hended : fromRestore (courseOf host.poll n chain options) (s.document n).text stepping
      stepped = (report, ended)) :
    ended.app.settings.layers =
        (if stepping.slot.modified then
          Settings.dropEmptyBlock s.app.settings.layers scope (s.document n).language
        else s.app.settings.layers) ∧
      (stepping.slot.modified = true ↔
        chain.ids ≠ [] ∧ s.cancelled = false ∧ s.app.settings.IsWritable scope) := by
  obtain ⟨announced, hannounced, hsteps⟩ := upToRestore_stepped host
    (courseOf host.poll n chain options) chain
    (.at s.app.settings scope (s.document n).language) (held s)
  rw [hstepped] at hsteps
  have hsettings : announced.app.settings = s.app.settings := by
    rw [hannounced.app]
    rfl
  have hholds : stepping.slot.Holds s.app.settings stepped.app.settings :=
    hsteps.holds hkeeps rfl (.untouched rfl (by rw [hsettings]))
  have hmodified := hsteps.modified_iff rfl
  rw [hsettings, hannounced.cancelled] at hmodified
  refine ⟨?_, hmodified⟩
  -- Whatever was named, the slot remembers the value from the start.
  obtain ⟨hscope, hlanguage, hfound⟩ : stepping.slot.scope = scope ∧
      stepping.slot.language = (s.document n).language ∧ stepping.slot.found =
        s.app.settings.raw? scope Settings.Key.defaultFormatter (s.document n).language := by
    rcases hsteps.slot_cases with ⟨hslot, -⟩ | hslot
    · rw [hslot]
      exact ⟨rfl, rfl, rfl⟩
    · rw [hslot]
      exact ⟨rfl, rfl, rfl⟩
  obtain ⟨settings, hrestore, hlayers⟩ := hholds.restore (by rw [hscope, hlanguage, hfound])
  have happ : (fromRestore (courseOf host.poll n chain options) (s.document n).text stepping
      stepped).2.app = (Host.restore stepping.slot stepped).2.app := fromRestore_app _ _
  rw [hended] at happ
  rw [happ, (restore_ok hrestore).app, ← hscope, ← hlanguage]
  exact hlayers

/-- **A run leaves the layers as they were**, except that an empty block of the document's language
at the narrowest scope is gone if it named a formatter. -/
theorem layers_run (hkeeps : host.KeepsSettings) (n : Nat) (chain : Chain) (options : RunOptions)
    (s : Session) :
    (∃ scope, NamesFormatters n chain s scope ∧
      (host.run n chain options s).2.app.settings.layers =
        Settings.dropEmptyBlock s.app.settings.layers scope (s.document n).language) ∨
    (∀ scope, ¬ NamesFormatters n chain s scope) ∧
      (host.run n chain options s).2.app.settings.layers = s.app.settings.layers := by
  have hran := runWith_ran host host.poll n chain options s
  change Ran _ _ _ _ _ _ (host.run n chain options s).1 (host.run n chain options s).2 at hran
  generalize (host.run n chain options s).1 = report at hran
  generalize (host.run n chain options s).2 = ended at hran ⊢
  cases hran with
  | alreadyRunning hheld hsaid =>
    refine .inr ⟨fun scope h => ?_, by rw [hsaid.app]⟩
    exact Bool.false_ne_true (h.free.symm.trans hheld)
  | notDirty _ hclean hsaid =>
    refine .inr ⟨fun scope h => ?_, by rw [released, hsaid.app]; rfl⟩
    exact Bool.false_ne_true (hclean.symm.trans h.dirty)
  | emptyChain _ _ hempty hsaid =>
    exact .inr ⟨fun scope h => h.chain hempty, by rw [released, hsaid.app]; rfl⟩
  | uncaptured _ _ _ hacquire hsaid =>
    refine .inr ⟨fun scope h => ?_, by rw [released, hsaid.app]; rfl⟩
    rw [Slot.acquire_of_narrowest h.narrowest] at hacquire
    exact absurd hacquire (by simp)
  | @completed slot stepping stepped ended report hfree hdirty hchain hacquire hstepped hended =>
    obtain ⟨scope, hscope, rfl⟩ := Slot.acquire_eq_ok_iff.1 hacquire
    obtain ⟨hlayers, hmodified⟩ := layers_fromRestore hkeeps hstepped hended
    change (released ended).app.settings.layers = _ at hlayers
    rw [hlayers]
    cases hnamed : stepping.slot.modified with
    | true =>
      obtain ⟨-, hgoing, hwritable⟩ := hmodified.1 hnamed
      exact .inl ⟨scope, ⟨hfree, hdirty, hchain, hgoing, hscope, hwritable⟩, rfl⟩
    | false =>
      refine .inr ⟨fun scope' h => ?_, rfl⟩
      obtain rfl := Option.some.inj (hscope.symm.trans h.narrowest)
      exact Bool.false_ne_true (hnamed.symm.trans (hmodified.2 ⟨h.chain, h.going, h.writable⟩))

end Host

end FormatChain
