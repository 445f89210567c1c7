import FormatChain.Proofs.Command.Preparing
import FormatChain.Proofs.Settings.Qualified

/-!
# What settings files come to

A settings file is missing, or cannot be read, or holds a text.  This alone decides which layers are
loaded, and which text is watched for changes.  Where no text holds the mark that separates them,
the text under watch tells the texts of the files apart; but a file that is missing, one that is
empty and one that cannot be read look the same.

* `FileState`, `Session.fileState` : what is known of a file.
* `Session.SameFiles` : the files are the same.
* `Session.layers?`, `Workspace.run_loadLayers` : the layers that are loaded, if none fails.
* `Session.watched`, `Workspace.run_filesFingerprint` : the text that is watched.
* `Session.sameWatched_of_watched_eq` : what equal texts tell.
* `Session.layers?_of_watched` : layers whose files look the same have the same values.
-/

namespace FormatChain

open FormatChain.Json
open Session (SetsUp WithEvents setsUp_allowsLoading)
open Settings (Block Layer PerScope Places Scope)

/-! ## Files -/

/-- What is known of a file. -/
inductive FileState where
  /-- There is none. -/
  | missing
  /-- There is one, and it cannot be read. -/
  | unreadable
  /-- It holds a text. -/
  | holds (text : String)
  deriving Repr, DecidableEq

/-- The text of a file that is watched, empty if there is none. -/
def FileState.watched : FileState → String
  | .holds text => text
  | _ => ""

/-- The layer of a file, empty if there is no file. -/
def FileState.layer? (path : Path) (readOnly : Bool) : FileState → Option Layer
  | .missing => some .empty
  | .unreadable => none
  | .holds text =>
    (Layer.parse text).toOption.map fun layer => { layer with filePath := some path, readOnly }

/-- The failure is that of settings with a number that is too large, with which no program goes
on. -/
def Failure.collapses : Failure → Bool
  | .settingsMalformed _ _ .numberTooLarge => true
  | _ => false

namespace Session

variable {s s' : Session} {p : Path}

/-- What is known of the file under a path. -/
def fileState (s : Session) (p : Path) : FileState :=
  if s.pathExists p then
    match s.read p with
    | .ok text => .holds text
    | .error _ => .unreadable
  else .missing

/-- Nothing can be read where nothing is. -/
theorem read_of_missing (h : s.pathExists p = false) : ∃ e, s.read p = .error e := by
  unfold pathExists at h
  unfold read
  split at h
  · next hmemory =>
    rw [if_pos hmemory, readMemory, Option.not_isSome_iff_eq_none.1 (Bool.eq_false_iff.1 h)]
    exact ⟨_, rfl⟩
  · next hmemory =>
    have hlocate : ∃ e, s.disk.locate s.cwd p = .error e := by
      rw [Disk.locate]
      unfold Disk.pathExists at h
      split at h
      · next hfind => exact ⟨_, by rw [hfind]; rfl⟩
      · exact absurd h (by simp)
      · next hfind => exact ⟨_, by rw [hfind]; rfl⟩
    obtain ⟨e, hlocate⟩ := hlocate
    rw [if_neg hmemory, readMachine, Disk.openText, hlocate]
    exact ⟨_, rfl⟩

/-- The text that is watched is the one that is read, if any is. -/
theorem watched_fileState (s : Session) (p : Path) :
    (s.fileState p).watched = (s.read p).toOption.getD "" := by
  unfold fileState
  split
  · cases s.read p with
    | ok text => rfl
    | error e => rfl
  · next hmissing =>
    obtain ⟨e, hread⟩ := read_of_missing (Bool.eq_false_iff.2 hmissing)
    rw [hread]
    rfl

/-- The files, and the directory they are found from, are the same. -/
structure SameFiles (s s' : Session) : Prop where
  disk : s'.disk = s.disk
  outside : s'.outside = s.outside
  cwd : s'.cwd = s.cwd

instance : IsPreorder Session SameFiles where
  refl _ := ⟨rfl, rfl, rfl⟩
  trans _ _ _ h h' :=
    ⟨h'.disk.trans h.disk, h'.outside.trans h.outside, h'.cwd.trans h.cwd⟩

theorem SetsUp.sameFiles (h : SetsUp s s') : SameFiles s s' := by
  obtain ⟨_, _, _, _, rfl⟩ := h
  exact ⟨rfl, rfl, rfl⟩

theorem WithEvents.sameFiles (h : WithEvents s s') : SameFiles s s' := h.setsUp.sameFiles

namespace SameFiles

variable (h : SameFiles s s')
include h

theorem pathExists (p : Path) : s'.pathExists p = s.pathExists p := by
  rw [Session.pathExists, Session.pathExists, inMemory, inMemory, h.disk, h.outside, h.cwd]

theorem isReadOnly (p : Path) : s'.isReadOnly p = s.isReadOnly p := by
  rw [Session.isReadOnly, Session.isReadOnly, inMemory, inMemory, h.disk, h.outside, h.cwd]

theorem read (p : Path) : s'.read p = s.read p := by
  rw [Session.read, Session.read, readMemory, readMemory, readMachine, readMachine, inMemory,
    inMemory, h.disk, h.outside, h.cwd]

theorem fileState (p : Path) : s'.fileState p = s.fileState p := by
  rw [Session.fileState, Session.fileState, h.pathExists, h.read]

end SameFiles

/-! ## Layers -/

/-- The layer of the file under a path, if it can be loaded. -/
def layer? (s : Session) (p : Path) : Option Layer := (s.fileState p).layer? p (s.isReadOnly p)

/-- The layers of files, after those loaded before, if all can be loaded. -/
def layersFrom? (s : Session) (layers : PerScope Layer) :
    List (Scope × Path) → Option (PerScope Layer)
  | [] => some layers
  | (scope, path) :: rest =>
    (s.layer? path).bind fun layer => s.layersFrom? (layers.set scope layer) rest

/-- The layers of the settings files, if all can be loaded. -/
def layers? (s : Session) (places : Places) : Option (PerScope Layer) :=
  s.layersFrom? { global := if places.global.isNone then some .empty else none } places.toList

theorem SameFiles.layer? (h : SameFiles s s') (p : Path) : s'.layer? p = s.layer? p := by
  rw [Session.layer?, Session.layer?, h.fileState, h.isReadOnly]

theorem SameFiles.layersFrom? (h : SameFiles s s') (files : List (Scope × Path))
    (layers : PerScope Layer) : s'.layersFrom? layers files = s.layersFrom? layers files := by
  induction files generalizing layers with
  | nil => rfl
  | cons file rest ih => simp only [Session.layersFrom?, h.layer?, ih]

theorem SameFiles.layers? (h : SameFiles s s') (places : Places) :
    s'.layers? places = s.layers? places := h.layersFrom? _ _

/-- The layer of the file of a scope, or why it cannot be loaded. -/
def loaded (s : Session) (scope : Scope) (path : Path) : Except Failure Layer :=
  if s.pathExists path then
    match s.read path with
    | .error e => .error (.settingsUnreadable scope path e)
    | .ok text =>
      match Layer.parse text with
      | .error cause => .error (.settingsMalformed scope path cause)
      | .ok layer => .ok { layer with filePath := some path, readOnly := s.isReadOnly path }
  else .ok .empty

/-- The layers of files, after those loaded before, or why the first one that cannot be loaded
cannot be. -/
def loadedFrom (s : Session) (layers : PerScope Layer) :
    List (Scope × Path) → Except Failure (PerScope Layer)
  | [] => .ok layers
  | (scope, path) :: rest =>
    match s.loaded scope path with
    | .error e => .error e
    | .ok layer => s.loadedFrom (layers.set scope layer) rest

/-- The session after settings were loaded with some result. -/
def collapsedBy {α : Type} (s : Session) : Except Failure α → Session
  | .error e => if e.collapses then { s with collapsed := true } else s
  | .ok _ => s

theorem SameFiles.loaded (h : SameFiles s s') (scope : Scope) (p : Path) :
    s'.loaded scope p = s.loaded scope p := by
  rw [Session.loaded, Session.loaded, h.pathExists, h.read, h.isReadOnly]

theorem SameFiles.loadedFrom (h : SameFiles s s') (files : List (Scope × Path))
    (layers : PerScope Layer) : s'.loadedFrom layers files = s.loadedFrom layers files := by
  induction files generalizing layers with
  | nil => rfl
  | cons file rest ih => simp only [Session.loadedFrom, h.loaded, ih]

theorem layer?_eq (s : Session) (scope : Scope) (p : Path) :
    s.layer? p = (s.loaded scope p).toOption := by
  rw [Session.layer?, fileState, loaded]
  split
  · cases s.read p with
    | error e => rfl
    | ok text =>
      dsimp only
      rw [FileState.layer?]
      cases Layer.parse text with
      | error cause => rfl
      | ok layer => rfl
  · rfl

theorem layersFrom?_eq (s : Session) (files : List (Scope × Path)) (layers : PerScope Layer) :
    s.layersFrom? layers files = (s.loadedFrom layers files).toOption := by
  induction files generalizing layers with
  | nil => rfl
  | cons file rest ih =>
    obtain ⟨scope, path⟩ := file
    rw [Session.layersFrom?, loadedFrom, layer?_eq s scope]
    cases s.loaded scope path with
    | error e => rfl
    | ok layer => exact ih (layers.set scope layer)

end Session

open Session (SameFiles)

/-- Settings made of layers have these layers. -/
theorem Settings.layers_ofLayers (layers : PerScope Layer) :
    (ofLayers layers).layers = layers := by
  obtain ⟨general, workspace, folder⟩ := layers
  cases general <;> cases workspace <;> cases folder <;> rfl

namespace Workspace

/-- A text is a layer, or cannot be one. -/
theorem run_parseLayer (scope : Scope) (path : Path) (text : String) (s : Session) :
    (parseLayer scope path text).run s =
      let parsed := (Layer.parse text).mapError (Failure.settingsMalformed scope path)
      (parsed, s.collapsedBy parsed) := by
  unfold parseLayer
  cases Layer.parse text with
  | ok layer => rfl
  | error cause =>
    cases cause with
    | numberTooLarge => rfl
    | malformed _ | notAnObject | overrideNotAnObject _ | invalidOverrideKey _ => rfl

/-- A layer of a file that is there. -/
def readLayer (scope : Scope) (path : Path) : Attempt Layer := do
  let text ← (Attempt.readText path).adapt (.settingsUnreadable scope path)
  let layer ← parseLayer scope path text
  return { layer with filePath := some path, readOnly := (← get).isReadOnly path }

theorem run_readLayer (scope : Scope) {path : Path} {s : Session}
    (hthere : s.pathExists path = true) :
    ∃ said, WithEvents s said ∧ (readLayer scope path).run s =
      (s.loaded scope path, said.collapsedBy (s.loaded scope path)) := by
  obtain ⟨hread, hsaid⟩ := Attempt.run_readText path s
  have hadapt : ((Attempt.readText path).adapt (Failure.settingsUnreadable scope path)).run s =
      (((Attempt.readText path).run s).1.mapError (Failure.settingsUnreadable scope path),
        ((Attempt.readText path).run s).2) := rfl
  generalize ((Attempt.readText path).run s).2 = said at hadapt hsaid
  refine ⟨said, hsaid, ?_⟩
  rw [hread] at hadapt
  rw [Session.loaded, if_pos hthere]
  cases htext : s.read path with
  | error e =>
    rw [htext] at hadapt
    rw [readLayer, Attempt.run_bind_error hadapt]
    rfl
  | ok text =>
    rw [htext] at hadapt
    have hparse := run_parseLayer scope path text said
    rw [readLayer, Attempt.run_bind_ok hadapt]
    dsimp only at hparse ⊢
    cases hlayer : Layer.parse text with
    | error cause =>
      rw [hlayer] at hparse
      rw [Attempt.run_bind_error hparse]
      rfl
    | ok layer =>
      rw [hlayer] at hparse
      rw [Attempt.run_bind_ok hparse, ← hsaid.sameFiles.isReadOnly]
      rfl

/-- **A layer is loaded as its file says.** -/
theorem run_loadLayer (scope : Scope) (path : Path) (s : Session) :
    ∃ said, WithEvents s said ∧ (loadLayer scope path).run s =
      (s.loaded scope path, said.collapsedBy (s.loaded scope path)) := by
  have hstart : loadLayer scope path = (get >>= fun s => if s.pathExists path then do
      Action.debug s!"Loading {scope.name} settings from {path.text}"
      readLayer scope path
    else return .empty) := rfl
  rw [hstart, Attempt.run_bind_ok (Attempt.run_get s)]
  by_cases hthere : s.pathExists path = true
  · have hremark := Action.debug_onlySays s!"Loading {scope.name} settings from {path.text}" s
    rw [if_pos hthere, Attempt.run_lift_bind]
    generalize (Action.debug s!"Loading {scope.name} settings from {path.text}" s).2 = remarked
      at hremark ⊢
    have hfiles := hremark.sameFiles
    obtain ⟨said, hsaid, hrun⟩ := run_readLayer scope ((hfiles.pathExists path).trans hthere)
    rw [hfiles.loaded] at hrun
    exact ⟨said, IsTrans.trans _ _ _ hremark hsaid, hrun⟩
  · rw [if_neg hthere, Session.loaded, if_neg hthere]
    exact ⟨s, refl s, rfl⟩

/-- **The layers are loaded as their files say.** -/
theorem run_loadFrom (files : List (Scope × Path)) (layers : PerScope Layer) (s : Session) :
    ∃ said, WithEvents s said ∧ (loadFrom layers files).run s =
      (s.loadedFrom layers files, said.collapsedBy (s.loadedFrom layers files)) := by
  induction files generalizing layers s with
  | nil => exact ⟨s, refl s, rfl⟩
  | cons file rest ih =>
    obtain ⟨scope, path⟩ := file
    obtain ⟨said, hsaid, hload⟩ := run_loadLayer scope path s
    rw [Session.loadedFrom]
    cases hlayer : s.loaded scope path with
    | error e =>
      rw [hlayer] at hload
      rw [loadFrom, Attempt.run_bind_error hload]
      exact ⟨said, hsaid, rfl⟩
    | ok layer =>
      rw [hlayer] at hload
      rw [loadFrom, Attempt.run_bind_ok hload]
      obtain ⟨after, hafter, hrest⟩ := ih (layers.set scope layer) said
      rw [hsaid.sameFiles.loadedFrom] at hrest
      exact ⟨after, IsTrans.trans _ _ _ hsaid hafter, hrest⟩

theorem run_loadLayers (places : Places) (s : Session) :
    ((loadLayers places).run s).1.toOption = s.layers? places := by
  obtain ⟨_, -, hrun⟩ := run_loadFrom places.toList
    { global := if places.global.isNone then some .empty else none } s
  rw [loadLayers, hrun]
  exact (Session.layersFrom?_eq s _ _).symm

/-- Settings that were loaded are made of the layers of the files that were discovered. -/
theorem run_loadSettings_cases {root : Path} {document : Option Path} {settings : Settings}
    {places : Places} {s s' : Session}
    (h : (loadSettings root document).run s = (.ok (settings, places), s')) :
    places = (discover root document s).1 ∧
      ∃ layers loaded, settings = .ofLayers layers ∧
        (loadLayers places).run s = (.ok layers, loaded) := by
  rw [loadSettings, Attempt.run_lift_bind] at h
  obtain ⟨layers, loaded, hload, h⟩ := Attempt.run_bind_eq_ok_iff.1 h
  rw [Attempt.run_lift_bind, Attempt.run_lift_bind, Attempt.run_pure] at h
  obtain ⟨rfl, rfl⟩ := Prod.mk.inj (Except.ok.inj (Prod.mk.inj h).1)
  exact ⟨rfl, layers, loaded, rfl, hload⟩

/-- Settings that were loaded are those of the files. -/
theorem loadSettings_eq_ok {root : Path} {document : Option Path} {settings : Settings}
    {places : Places} {s s' : Session}
    (h : (loadSettings root document).run s = (.ok (settings, places), s')) :
    s'.layers? places = some settings.layers := by
  have hfiles := (loadSettings_setsUp root document s).sameFiles
  rw [h] at hfiles
  obtain ⟨-, layers, loaded, rfl, hload⟩ := run_loadSettings_cases h
  have hlayers := run_loadLayers places s
  rw [hload] at hlayers
  rw [hfiles.layers?, Settings.layers_ofLayers]
  exact hlayers.symm

end Workspace

/-! ## Texts under watch -/

namespace Session

/-- The text of a file that is watched. -/
def look (s : Session) (file : Scope × Path) : String := (s.fileState file.2).watched

/-- The text of some files that is watched. -/
def watchedFrom (s : Session) (files : List (Scope × Path)) : String :=
  Settings.watchedText (files.map fun file => (file.1, some (s.look file)))

/-- The text that is watched for changes of the settings files. -/
def watched (s : Session) (places : Places) : String :=
  Settings.watchedText (places.toList.map fun file => (file.1, some (s.fileState file.2).watched))

theorem SameFiles.watchedFrom (h : SameFiles s s') (files : List (Scope × Path)) :
    s'.watchedFrom files = s.watchedFrom files := by
  simp only [Session.watchedFrom, look, h.fileState]

theorem SameFiles.watched (h : SameFiles s s') (places : Places) :
    s'.watched places = s.watched places := h.watchedFrom places.toList

/-- No settings file holds the mark that stands between the texts under watch. -/
def PlainTexts (s : Session) (places : Places) : Prop :=
  ∀ file ∈ places.toList, '\x00' ∉ (s.fileState file.2).watched.toList

instance (s : Session) (places : Places) : Decidable (s.PlainTexts places) :=
  inferInstanceAs (Decidable (∀ file ∈ places.toList, _ ∉ _))

/-- The settings files look the same to those who watch them. -/
def SameWatched (places : Places) (s s' : Session) : Prop :=
  ∀ file ∈ places.toList, (s'.fileState file.2).watched = (s.fileState file.2).watched

instance (places : Places) (s s' : Session) : Decidable (SameWatched places s s') :=
  inferInstanceAs (Decidable (∀ file ∈ places.toList, _ = _))

theorem SameWatched.watched_eq {places : Places} (h : SameWatched places s s') :
    s'.watched places = s.watched places := by
  refine congrArg Settings.watchedText (List.map_congr_left fun file hmem => ?_)
  rw [h file hmem]

end Session

theorem Settings.watchedText_cons (file : Scope × Option String)
    (files : List (Scope × Option String)) :
    watchedText (file :: files) =
      file.1.name ++ "\x00" ++ file.2.getD "" ++ "\x00" ++ watchedText files := by
  rw [watchedText, List.map_cons, String.join_cons]
  rfl

namespace Session

variable {s s' : Session}

theorem watchedFrom_cons (s : Session) (file : Scope × Path) (rest : List (Scope × Path)) :
    s.watchedFrom (file :: rest) =
      file.1.name ++ "\x00" ++ (s.look file ++ "\x00" ++ s.watchedFrom rest) := by
  rw [watchedFrom, List.map_cons, Settings.watchedText_cons]
  simp only [Option.getD_some, String.append_assoc]
  rfl

/-- Texts that hold no mark are told apart by the text under watch. -/
theorem look_eq_of_watchedFrom_eq {files : List (Scope × Path)}
    (hplain : ∀ file ∈ files, '\x00' ∉ (s.look file).toList)
    (hplain' : ∀ file ∈ files, '\x00' ∉ (s'.look file).toList)
    (h : s.watchedFrom files = s'.watchedFrom files) :
    ∀ file ∈ files, s.look file = s'.look file := by
  induction files with
  | nil => exact fun _ hmem => absurd hmem List.not_mem_nil
  | cons first rest ih =>
    have hchars := congrArg String.toList h
    simp only [watchedFrom_cons, String.toList_append, List.append_assoc] at hchars
    obtain ⟨htext, hrest⟩ := Settings.append_mark_inj (hplain first List.mem_cons_self)
      (hplain' first List.mem_cons_self)
      (List.append_cancel_left (List.append_cancel_left hchars))
    intro file hmem
    rcases List.mem_cons.1 hmem with rfl | hmem
    · exact String.toList_injective htext
    · exact ih (fun file hfile => hplain file (List.mem_cons_of_mem _ hfile))
        (fun file hfile => hplain' file (List.mem_cons_of_mem _ hfile))
        (String.toList_injective hrest) file hmem

/-- **Files without marks look the same if the texts under watch are equal.** -/
theorem sameWatched_of_watched_eq {places : Places} (hplain : s.PlainTexts places)
    (hplain' : s'.PlainTexts places) (h : s.watched places = s'.watched places) :
    SameWatched places s s' :=
  fun file hmem => (look_eq_of_watchedFrom_eq hplain hplain' h file hmem).symm

end Session

namespace Workspace

theorem run_readFiles (files : List (Scope × Path)) (s : Session) :
    Settings.watchedText (readFiles files s).1 = s.watchedFrom files ∧
      WithEvents s (readFiles files s).2 := by
  induction files generalizing s with
  | nil => exact ⟨rfl, refl s⟩
  | cons file rest ih =>
    obtain ⟨scope, path⟩ := file
    obtain ⟨hread, hsaid⟩ := Attempt.run_readText path s
    obtain ⟨hrest, hrestSaid⟩ := ih ((Attempt.readText path).run s).2
    refine ⟨?_, IsTrans.trans _ _ _ hsaid hrestSaid⟩
    have hfirst : (readFiles ((scope, path) :: rest) s).1 =
        (scope, ((Attempt.readText path).run s).1.toOption) ::
          (readFiles rest ((Attempt.readText path).run s).2).1 := rfl
    rw [hsaid.sameFiles.watchedFrom] at hrest
    rw [hfirst, hread, Settings.watchedText_cons, hrest, Session.watchedFrom_cons, Session.look,
      Session.watched_fileState]
    simp only [String.append_assoc]

/-- The fingerprint of the settings files is that of the text under watch. -/
theorem run_filesFingerprint (places : Places) (s : Session) :
    (filesFingerprint places s).1 = .of (s.watched places) ∧
      WithEvents s (filesFingerprint places s).2 := by
  obtain ⟨htext, hsaid⟩ := run_readFiles places.toList s
  exact ⟨congrArg Fingerprint.of htext, hsaid⟩

end Workspace

/-! ## Layers whose files look the same -/

/-- What a layer sets, wherever it comes from. -/
def Settings.Layer.values (layer : Layer) : Block × OrderedMap Block :=
  (layer.general, layer.languages)

/-- The layers of each scope set the same, or there are none. -/
def Settings.PerScope.SameValues (layers layers' : PerScope Layer) : Prop :=
  ∀ scope, (layers.get? scope).map Layer.values = (layers'.get? scope).map Layer.values

theorem Settings.PerScope.SameValues.set {layers layers' : PerScope Layer} {layer layer' : Layer}
    (h : layers.SameValues layers') (hvalues : layer.values = layer'.values) (scope : Scope) :
    (layers.set scope layer).SameValues (layers'.set scope layer') := by
  intro other
  rw [PerScope.get?_set, PerScope.get?_set]
  split
  · rw [Option.map_some, Option.map_some, hvalues]
  · exact h other

theorem FileState.layer?_holds_empty (path : Path) (readOnly : Bool) :
    (FileState.holds "").layer? path readOnly = some ⟨some path, readOnly, .empty, .empty⟩ := rfl

/-- Of two files that look the same the one sets what the other one does, unless it cannot be
read. -/
theorem FileState.layer?_of_watched {old new : FileState} {path : Path} {readOnly readOnly' : Bool}
    {layer : Layer} (hwatched : new.watched = old.watched) (hold : old ≠ .unreadable)
    (h : new.layer? path readOnly = some layer) :
    ∃ before, old.layer? path readOnly' = some before ∧ before.values = layer.values := by
  cases new with
  | unreadable => exact absurd h (by simp [FileState.layer?])
  | missing =>
    obtain rfl := Option.some.inj h
    cases old with
    | unreadable => exact absurd rfl hold
    | missing => exact ⟨_, rfl, rfl⟩
    | holds text =>
      obtain rfl : "" = text := hwatched
      exact ⟨_, layer?_holds_empty path readOnly', rfl⟩
  | holds text =>
    cases old with
    | unreadable => exact absurd rfl hold
    | missing =>
      obtain rfl : text = "" := hwatched
      obtain rfl := Option.some.inj ((layer?_holds_empty path readOnly).symm.trans h)
      exact ⟨_, rfl, rfl⟩
    | holds before =>
      obtain rfl : text = before := hwatched
      obtain ⟨parsed, hparse, rfl⟩ := Option.map_eq_some_iff.1 h
      refine ⟨{ parsed with filePath := some path, readOnly := readOnly' }, ?_, rfl⟩
      rw [FileState.layer?, hparse]
      rfl

namespace Session

variable {s s' : Session} {files : List (Scope × Path)}

theorem layersFrom?_of_watched {layers layers' made' : PerScope Layer}
    (hwatched : ∀ file ∈ files, (s'.fileState file.2).watched = (s.fileState file.2).watched)
    (hread : ∀ file ∈ files, s.fileState file.2 ≠ .unreadable) (hlayers : layers.SameValues layers')
    (h : s'.layersFrom? layers' files = some made') :
    ∃ made, s.layersFrom? layers files = some made ∧ made.SameValues made' := by
  induction files generalizing layers layers' with
  | nil =>
    obtain rfl := Option.some.inj h
    exact ⟨layers, rfl, hlayers⟩
  | cons file rest ih =>
    obtain ⟨scope, path⟩ := file
    obtain ⟨layer', hlayer', hrest⟩ := Option.bind_eq_some_iff.1 h
    obtain ⟨layer, hlayer, hvalues⟩ := FileState.layer?_of_watched
      (hwatched (scope, path) List.mem_cons_self) (hread (scope, path) List.mem_cons_self) hlayer'
    obtain ⟨made, hmade, hsame⟩ := ih
      (fun file hmem => hwatched file (List.mem_cons_of_mem _ hmem))
      (fun file hmem => hread file (List.mem_cons_of_mem _ hmem)) (hlayers.set hvalues scope) hrest
    exact ⟨made, Option.bind_eq_some_iff.2 ⟨layer, hlayer, hmade⟩, hsame⟩

/-- Files that can be loaded can be read. -/
theorem fileState_of_layersFrom? {layers made : PerScope Layer}
    (h : s.layersFrom? layers files = some made) :
    ∀ file ∈ files, s.fileState file.2 ≠ .unreadable := by
  induction files generalizing layers with
  | nil => exact fun _ hmem => absurd hmem List.not_mem_nil
  | cons first rest ih =>
    obtain ⟨layer, hlayer, hrest⟩ := Option.bind_eq_some_iff.1 h
    intro file hmem
    rcases List.mem_cons.1 hmem with rfl | hmem
    · intro hunreadable
      rw [layer?, hunreadable] at hlayer
      exact absurd hlayer (by simp [FileState.layer?])
    · exact ih hrest file hmem

theorem fileState_of_layers? {places : Places} {layers : PerScope Layer}
    (h : s.layers? places = some layers) :
    ∀ file ∈ places.toList, s.fileState file.2 ≠ .unreadable := fileState_of_layersFrom? h

/-- **Files that look the same as files that could be read set the same.** -/
theorem layers?_of_watched {places : Places} {layers' : PerScope Layer}
    (hwatched : SameWatched places s s')
    (hread : ∀ file ∈ places.toList, s.fileState file.2 ≠ .unreadable)
    (h : s'.layers? places = some layers') :
    ∃ layers, s.layers? places = some layers ∧ layers.SameValues layers' :=
  layersFrom?_of_watched hwatched hread (fun _ => rfl) h

end Session

end FormatChain
