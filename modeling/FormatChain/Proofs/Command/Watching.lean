import FormatChain.Command.CheckConflicts
import FormatChain.Proofs.Workspace.Loading

/-!
# Settings under watch

Those who watch settings files look at their texts again and again, and load them when the texts
have changed.  While a file cannot be loaded the settings stay as they were.  So after each look at
files that can be loaded the settings are those of the files, with one exception: a file that could
not be read when a change was last noticed, and that by now is missing or empty, looks as it did
then.

* `Watch.Look`, `Watch.keepLooking` : watching, with an account of the looks.
* `Watch.lastNoticed` : the files as they were when they were last found to look different.
* `Watch.IsOverlooked` : the files look as they did then, and could not all be read then.
* `Watch.IsUpTo` : what watching keeps to.
* `Watch.keep_converges` : when the settings are those of the files.
-/

namespace FormatChain

open Session (SameFiles SameWatched WithEvents)
open Settings (Layer PerScope Places)

/-- Scanning for conflicts leaves the files alone. -/
theorem Application.scanConflicts_sameFiles (settings : Settings) :
    Action.Leads SameFiles (scanConflicts settings) := by
  refine Action.leads_get.bind fun s => ?_
  refine ((Action.tell_onlySays _).mono fun _ _ h => h.sameFiles).bind fun progress => ?_
  exact Action.Leads.bind (fun s => ⟨rfl, rfl, rfl⟩) fun _ => Action.leads_pure _

namespace Watch

variable {w : Watch} {places : Places} {s s' last : Session}

/-! ## Single looks -/

/-- What one look comes to: nothing has changed; or something has, and the layers of the files are
taken over, or cannot be loaded. -/
inductive Polled (w : Watch) (s : Session) : Watch → Session → Prop
  | unchanged {later : Session} (h : .of (s.watched w.places) = w.seen)
      (hsaid : WithEvents s later) : Polled w s w later
  | loaded {layers : PerScope Layer} {later : Session} (h : .of (s.watched w.places) ≠ w.seen)
      (hload : s.layers? w.places = some layers) :
      Polled w s { w with
        seen := .of (s.watched w.places), settings := (w.settings.replaceLayers layers).2 } later
  | failed {later : Session} (h : .of (s.watched w.places) ≠ w.seen)
      (hload : s.layers? w.places = none) (hsame : later.app.conflicted = s.app.conflicted) :
      Polled w s { w with seen := .of (s.watched w.places) } later

theorem reload_fst (w : Watch) (layers : PerScope Layer) (s : Session) :
    (w.reload layers s).1 = { w with settings := (w.settings.replaceLayers layers).2 } := by
  rcases hreplaced : w.settings.replaceLayers layers with ⟨keys, settings⟩
  simp only [reload, hreplaced]
  cases keys with
  | nil => rfl
  | cons key rest =>
    simp only [List.isEmpty_cons, Bool.not_false, if_true, Action.bind_apply]
    cases (Application.onConfigurationChanged settings (key :: rest) s).1 with
    | none => rfl
    | some report => rfl

/-- **A look comes to no more than that.** -/
theorem poll_polled (w : Watch) (s : Session) : Polled w s (w.poll s).1 (w.poll s).2 := by
  obtain ⟨hnow, hsaid⟩ := Workspace.run_filesFingerprint w.places s
  rw [poll, Action.bind_apply, hnow]
  generalize (Workspace.filesFingerprint w.places s).2 = said at hsaid ⊢
  by_cases h : .of (s.watched w.places) = w.seen
  · rw [if_pos h]
    exact .unchanged h hsaid
  · have hlayers := Workspace.run_loadLayers w.places said
    have hsetUp := Workspace.loadLayers_leads Session.setsUp_allowsLoading w.places said
    rw [hsaid.sameFiles.layers?] at hlayers
    rw [if_neg h, Action.bind_apply]
    generalize (Workspace.loadLayers w.places).run said = loading at hlayers hsetUp ⊢
    obtain ⟨e | layers, loaded⟩ := loading
    · have herror := Action.error_onlySays e.text loaded
      refine .failed h hlayers.symm ?_
      exact (congrArg App.conflicted herror.app).trans
        (hsetUp.conflicted.trans (congrArg App.conflicted hsaid.app))
    · have hreload := reload_fst { w with seen := .of (s.watched w.places) } layers loaded
      change Polled w s (Watch.reload { w with seen := .of (s.watched w.places) } layers loaded).1 _
      rw [hreload]
      exact .loaded h hlayers.symm

/-- The files look as they did at another time, when one could not be read that is missing or empty
by now. -/
def IsOverlooked (places : Places) (last now : Session) : Prop :=
  SameWatched places last now ∧ ∃ file ∈ places.toList, last.fileState file.2 = .unreadable ∧
    (now.fileState file.2 = .missing ∨ now.fileState file.2 = .holds "")

instance (places : Places) (last now : Session) : Decidable (IsOverlooked places last now) :=
  inferInstanceAs (Decidable (_ ∧ _))

/-- Watching keeps to this: what was seen is how the files looked last, and if they could be loaded
then the settings are theirs. -/
structure IsUpTo (w : Watch) (last : Session) : Prop where
  seen : w.seen = .of (last.watched w.places)
  values {layers : PerScope Layer} (h : last.layers? w.places = some layers) :
    w.settings.layers.SameValues layers

/-- How settings, files and conflicts relate before and after a look, if the files were last found
to look different at a certain time. -/
structure Converges (places : Places) (last files : Session) (before after : Watch)
    (later : Session) : Prop where
  loaded {layers : PerScope Layer} (h : files.layers? places = some layers)
    (hnoticed : ¬ IsOverlooked places last files) : after.settings.layers.SameValues layers
  overlooked (h : IsOverlooked places last files) : after = before
  failed (h : files.layers? places = none) :
    after.settings = before.settings ∧ later.app.conflicted = files.app.conflicted

/-- Files that look as those did that the settings are up to, and can be loaded, set the same,
unless one of them is overlooked. -/
theorem IsUpTo.values_of_sameWatched (h : w.IsUpTo last) {layers : PerScope Layer}
    (hwatched : SameWatched w.places last s) (hload : s.layers? w.places = some layers)
    (hnoticed : ¬ IsOverlooked w.places last s) : w.settings.layers.SameValues layers := by
  have hread : ∀ file ∈ w.places.toList, last.fileState file.2 ≠ .unreadable := by
    intro file hmem hunreadable
    refine hnoticed ⟨hwatched, file, hmem, hunreadable, ?_⟩
    have hlooks := hwatched file hmem
    rw [hunreadable] at hlooks
    cases hstate : s.fileState file.2 with
    | missing => exact .inl rfl
    | unreadable => exact absurd hstate (Session.fileState_of_layers? hload file hmem)
    | holds text =>
      rw [hstate] at hlooks
      exact .inr (congrArg FileState.holds hlooks)
  obtain ⟨old, hold, hsame⟩ := Session.layers?_of_watched hwatched hread hload
  exact fun scope => (h.values hold scope).trans (hsame scope)

/-- **One look keeps to it.** -/
theorem Polled.converges {after : Watch} {later : Session} (h : Polled w s after later)
    (hupTo : w.IsUpTo last) (hlast : last.PlainTexts w.places) (hnow : s.PlainTexts w.places)
    (hdistinct : Fingerprint.of (last.watched w.places) = .of (s.watched w.places) →
      last.watched w.places = s.watched w.places) :
    after.places = w.places ∧
      after.IsUpTo (if SameWatched w.places last s then last else s) ∧
      Converges w.places last s w after later := by
  by_cases hsame : SameWatched w.places last s
  · have hseen : .of (s.watched w.places) = w.seen := by rw [hupTo.seen, hsame.watched_eq]
    cases h with
    | loaded hchanged _ => exact absurd hseen hchanged
    | failed hchanged _ _ => exact absurd hseen hchanged
    | unchanged _ hsaid =>
      rw [if_pos hsame]
      refine ⟨rfl, hupTo, ?_⟩
      exact
        { loaded := fun hload hnoticed => hupTo.values_of_sameWatched hsame hload hnoticed
          overlooked := fun _ => rfl
          failed := fun _ => ⟨rfl, congrArg App.conflicted hsaid.app⟩ }
  · rw [if_neg hsame]
    have hchanged : .of (s.watched w.places) ≠ w.seen := by
      intro hseen
      have hequal := hdistinct (hupTo.seen.symm.trans hseen.symm)
      exact hsame (Session.sameWatched_of_watched_eq hlast hnow hequal)
    cases h with
    | unchanged hseen _ => exact absurd hseen hchanged
    | @loaded taken later _ hload =>
      have hvalues {layers : PerScope Layer} (h : s.layers? w.places = some layers) :
          (w.settings.replaceLayers taken).2.layers.SameValues layers := by
        obtain rfl := Option.some.inj (hload.symm.trans h)
        exact fun _ => rfl
      refine ⟨rfl, ⟨rfl, hvalues⟩, ?_⟩
      exact
        { loaded := fun h _ => hvalues h
          overlooked := fun h => absurd h.1 hsame
          failed := fun h => absurd (hload.symm.trans h) (by simp) }
    | failed _ hload hkept =>
      refine ⟨rfl, ⟨rfl, fun h => ?_⟩, ?_⟩
      · rw [hload] at h
        exact absurd h (by simp)
      · exact
          { loaded := fun h _ => absurd (hload.symm.trans h) (by simp)
            overlooked := fun h => absurd h.1 hsame
            failed := fun _ => ⟨rfl, hkept⟩ }

/-! ## Looking again and again -/

/-- An account of a look: the watch, and the session, before and after it. -/
structure Look where
  /-- The watch before it. -/
  before : Watch
  /-- The session before it. -/
  files : Session
  /-- The watch after it. -/
  after : Watch
  /-- The session after it. -/
  later : Session

/-- Watching as it is, with an account of the looks. -/
def keepLooking (meanwhile : Nat → Action Unit) : Nat → Watch → Action (Watch × List Look)
  | 0, w => return (w, [])
  | count + 1, w => do
    if (← get).cancelled then return (w, [])
    else
      Action.record (.slept interval)
      meanwhile interval
      let files ← get
      if files.cancelled then return (w, [])
      else
        let after ← w.poll
        let later ← get
        let (ended, looks) ← keepLooking meanwhile count after
        return (ended, ⟨w, files, after, later⟩ :: looks)

variable {meanwhile : Nat → Action Unit}

/-- The account leaves watching as it is. -/
theorem keep_eq (count : Nat) (w : Watch) :
    keep meanwhile count w = Prod.fst <$> keepLooking meanwhile count w := by
  induction count generalizing w with
  | zero => rfl
  | succ count ih =>
    simp only [keep, keepLooking, map_bind]
    refine bind_congr fun s => ?_
    split
    · rfl
    · simp only [map_bind]
      refine bind_congr fun _ => bind_congr fun _ => bind_congr fun files => ?_
      split
      · rfl
      · simp only [map_bind, ih]
        rfl

/-- Looks one after the other, at whatever the files are by then. -/
inductive Looked : Watch → List Look → Prop
  | done {w : Watch} : Looked w []
  | again {w after : Watch} {files later : Session} {looks : List Look}
      (hpolled : Polled w files after later) (h : Looked after looks) :
      Looked w (⟨w, files, after, later⟩ :: looks)

theorem keepLooking_looked (count : Nat) (w : Watch) (s : Session) :
    Looked w (keepLooking meanwhile count w s).1.2 := by
  induction count generalizing w s with
  | zero => exact .done
  | succ count ih =>
    have hget {β : Type} (f : Session → Action β) (s : Session) : (get >>= f) s = f s s := rfl
    rw [keepLooking, hget]
    by_cases hgoing : s.cancelled = true
    · rw [if_pos hgoing]
      exact .done
    · rw [if_neg hgoing, Action.bind_apply, Action.bind_apply, hget]
      generalize (meanwhile interval (Action.record (.slept interval) s).2).2 = files
      by_cases hstill : files.cancelled = true
      · rw [if_pos hstill]
        exact .done
      · rw [if_neg hstill, Action.bind_apply, hget, Action.bind_apply]
        exact .again (poll_polled w files) (ih _ _)

/-- The files when they were last found to look different, if they looked so at first and there were
these looks since. -/
def lastNoticed (places : Places) (first : Session) (earlier : List Look) : Session :=
  earlier.foldl (fun last look => if SameWatched places last look.files then last else look.files)
    first

/-- **Watching keeps to it.** -/
theorem Looked.converges {looks : List Look} (h : Looked w looks) (hupTo : w.IsUpTo last)
    (hplain : ∀ files ∈ last :: looks.map Look.files, files.PlainTexts w.places)
    (hdistinct : ∀ files ∈ last :: looks.map Look.files, ∀ others ∈ last :: looks.map Look.files,
      Fingerprint.of (files.watched w.places) = .of (others.watched w.places) →
        files.watched w.places = others.watched w.places)
    {earlier later : List Look} {look : Look} (hlook : looks = earlier ++ look :: later) :
    Converges w.places (lastNoticed w.places last earlier) look.files look.before look.after
      look.later := by
  induction h generalizing last earlier with
  | done => exact absurd hlook (by simp)
  | @again w after files next looks hpolled _ ih =>
    rw [List.map_cons] at hplain hdistinct
    have hfiles : files ∈ last :: files :: looks.map Look.files :=
      List.mem_cons_of_mem _ List.mem_cons_self
    obtain ⟨hplaces, hnext, hconverges⟩ := hpolled.converges hupTo
      (hplain last List.mem_cons_self) (hplain files hfiles)
      (hdistinct last List.mem_cons_self files hfiles)
    cases earlier with
    | nil =>
      obtain ⟨rfl, -⟩ := List.cons.inj hlook
      exact hconverges
    | cons first earlier =>
      obtain ⟨rfl, hrest⟩ := List.cons.inj hlook
      have hsub : (if SameWatched w.places last files then last else files) ::
          looks.map Look.files ⊆ last :: files :: looks.map Look.files := by
        refine List.cons_subset.2 ⟨?_, fun _ hmem => ?_⟩
        · split
          · exact List.mem_cons_self
          · exact hfiles
        · exact List.mem_cons_of_mem _ (List.mem_cons_of_mem _ hmem)
      rw [hplaces] at ih
      exact ih hnext (fun files hmem => hplain files (hsub hmem))
        (fun files hmem others hmem' => hdistinct files (hsub hmem) others (hsub hmem')) hrest

/-- Watching begins with settings that are those of the files. -/
theorem begin_isUpTo {root : Path} {begun : Session}
    (hbegin : (Watch.begin root).run s = (.ok w, begun)) : w.IsUpTo begun := by
  rw [Watch.begin] at hbegin
  obtain ⟨⟨settings, places⟩, loaded, hload, h⟩ := Attempt.run_bind_eq_ok_iff.1 hbegin
  have hlayers := Workspace.loadSettings_eq_ok hload
  have hscanned := Application.scanConflicts_sameFiles settings loaded
  simp only [Attempt.run_lift_bind] at h
  generalize (Application.scanConflicts settings loaded).2 = scanned at h hscanned
  have hsaid := Action.log_onlySays
    "Watching settings files for changes. Press Ctrl+C to stop." scanned
  generalize (Action.log _ scanned).2 = said at h hsaid
  obtain ⟨hseen, hread⟩ := Workspace.run_filesFingerprint places said
  obtain ⟨hw, hbegun⟩ := Prod.mk.inj h
  obtain rfl := Except.ok.inj hw
  rw [hbegun] at hread
  have hbefore : SameFiles loaded begun :=
    IsTrans.trans _ _ _ hscanned (IsTrans.trans _ _ _ hsaid.sameFiles hread.sameFiles)
  refine ⟨?_, fun h => ?_⟩
  · rw [hread.sameFiles.watched]
    exact hseen
  · rw [hbefore.layers?] at h
    obtain rfl := Option.some.inj (hlayers.symm.trans h)
    exact fun _ => rfl

/-- **When the settings under watch are those of the files.**  Take settings files without the mark
that separates them, and fingerprints that tell their texts apart.  After each look at files that
can be loaded the settings have the values of the files, unless a file that is missing or empty by
now could not be read when a change was last noticed, and the settings did not have these values
before; then they stay as they were.  A look at files that cannot be loaded leaves the settings and
the record of conflicts alone. -/
theorem keep_converges {root : Path} {begun afterwards : Session} {ended : Watch} {count : Nat}
    {looks : List Look} (hbegin : (Watch.begin root).run s = (.ok w, begun))
    (hkept : keepLooking meanwhile count w begun = ((ended, looks), afterwards))
    (hplain : ∀ files ∈ begun :: looks.map Look.files, files.PlainTexts w.places)
    (hdistinct : ∀ files ∈ begun :: looks.map Look.files, ∀ others ∈ begun :: looks.map Look.files,
      Fingerprint.of (files.watched w.places) = .of (others.watched w.places) →
        files.watched w.places = others.watched w.places) :
    keep meanwhile count w begun = (ended, afterwards) ∧
      ∀ earlier look later, looks = earlier ++ look :: later →
        let last := lastNoticed w.places begun earlier
        (∀ layers loaded, (Workspace.loadLayers w.places).run look.files = (.ok layers, loaded) →
          (look.after.settings.layers.SameValues layers ↔
            ¬ (IsOverlooked w.places last look.files ∧
              ¬ look.before.settings.layers.SameValues layers))) ∧
        (IsOverlooked w.places last look.files → look.after = look.before) ∧
        ∀ e loaded, (Workspace.loadLayers w.places).run look.files = (.error e, loaded) →
          look.after.settings = look.before.settings ∧
            look.later.app.conflicted = look.files.app.conflicted := by
  have hlooked : Looked w looks := by
    have h : Looked w (keepLooking meanwhile count w begun).1.2 := keepLooking_looked count w begun
    rwa [hkept] at h
  refine ⟨?_, ?_⟩
  · rw [keep_eq]
    exact congrArg (fun kept : (Watch × List Look) × Session => (kept.1.1, kept.2)) hkept
  · intro earlier look later hlook last
    have hconverges := hlooked.converges (begin_isUpTo hbegin) hplain hdistinct hlook
    have hlayers := Workspace.run_loadLayers w.places look.files
    refine ⟨fun layers loaded hload => ⟨fun hsame hwrong => ?_, fun hright => ?_⟩,
      hconverges.overlooked, fun e loaded hload => ?_⟩
    · rw [hconverges.overlooked hwrong.1] at hsame
      exact hwrong.2 hsame
    · rw [hload] at hlayers
      by_cases hoverlooked : IsOverlooked w.places last look.files
      · rw [hconverges.overlooked hoverlooked]
        exact not_not.1 fun hother => hright ⟨hoverlooked, hother⟩
      · exact hconverges.loaded hlayers.symm hoverlooked
    · rw [hload] at hlayers
      exact hconverges.failed hlayers.symm

/-- A settings file that could not be read for a while is removed, and its settings stay. -/
theorem keep_converges_but_for_removal :
    let own : Path := ⟨"/.chainfmt/settings.json"⟩
    let meanwhile : Nat → Action Unit := fun _ => modify fun s =>
      { s with disk :=
          if s.disk.isUnreadable own then s.disk.remove own else s.disk.markUnreadable own true }
    let s : Session :=
      { disk := .ofFiles [(own, "\x7b\"chainfmt.debug\": false\x7d")], outside := some {} }
    ∃ w begun ended afterwards first second layers loaded,
      (Watch.begin ⟨"/"⟩).run s = (.ok w, begun) ∧
      keepLooking meanwhile 2 w begun = ((ended, [first, second]), afterwards) ∧
      (Workspace.loadLayers w.places).run second.files = (.ok layers, loaded) ∧
      second.after = second.before ∧ ¬ second.after.settings.layers.SameValues layers := by
  intro own meanwhile s
  have hbegins : ((Watch.begin ⟨"/"⟩).run s).1.toOption.isSome = true := by
    decide +kernel +revert
  have hfacts : ∀ w ∈ ((Watch.begin ⟨"/"⟩).run s).1.toOption,
      let begun := ((Watch.begin ⟨"/"⟩).run s).2
      let looks := (keepLooking meanwhile 2 w begun).1.2
      looks.length = 2 ∧
      (∀ files ∈ begun :: looks.map Look.files, files.PlainTexts w.places) ∧
      (∀ files ∈ begun :: looks.map Look.files, ∀ others ∈ begun :: looks.map Look.files,
        Fingerprint.of (files.watched w.places) = .of (others.watched w.places) →
          files.watched w.places = others.watched w.places) ∧
      ∀ first ∈ looks.head?, ∀ second ∈ looks.getLast?,
        IsOverlooked w.places (lastNoticed w.places begun [first]) second.files ∧
        second.before.settings.layers.workspace.map (·.general.isEmpty) = some false ∧
        ((second.files.layers? w.places).bind (·.workspace)).map (·.general.isEmpty) =
          some true := by
    clear hbegins
    decide +kernel +revert
  rcases hbegin : (Watch.begin ⟨"/"⟩).run s with ⟨e | w, begun⟩
  · rw [hbegin] at hbegins
    exact absurd hbegins (by simp [Except.toOption])
  rw [hbegin] at hfacts
  obtain ⟨hlength, hplain, hdistinct, hlast⟩ := hfacts w rfl
  rcases hkept : keepLooking meanwhile 2 w begun with ⟨⟨ended, looks⟩, afterwards⟩
  rw [hkept] at hlength hplain hdistinct hlast
  obtain ⟨first, second, rfl⟩ := List.length_eq_two.1 hlength
  obtain ⟨hoverlooked, hbefore, hset⟩ := hlast first rfl second rfl
  obtain ⟨-, hlooks⟩ := keep_converges hbegin hkept hplain hdistinct
  obtain ⟨-, hstayed, -⟩ := hlooks [first] second [] rfl
  have hafter := hstayed hoverlooked
  have hlayers := Workspace.run_loadLayers w.places second.files
  rcases hload : (Workspace.loadLayers w.places).run second.files with ⟨e | layers, loaded⟩
  · rw [hload] at hlayers
    rw [← hlayers] at hset
    exact absurd hset (by simp [Except.toOption])
  rw [hload] at hlayers
  rw [← hlayers] at hset
  refine ⟨w, begun, ended, afterwards, first, second, layers, loaded, rfl, hkept, hload, hafter,
    fun hsame => ?_⟩
  rw [hafter] at hsame
  have hempty := congrArg (Option.map fun values => values.1.isEmpty) (hsame .workspace)
  rw [Option.map_map, Option.map_map] at hempty
  exact absurd (hbefore.symm.trans (hempty.trans hset)) (by simp)

end Watch

end FormatChain
