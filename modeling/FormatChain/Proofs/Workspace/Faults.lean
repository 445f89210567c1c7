import FormatChain.Proofs.Settings.Parsing
import FormatChain.Proofs.Workspace.Loading

/-!
# Loading settings is all or nothing

The settings files are loaded in order, from the broadest scope to the narrowest.  The first one
that is there and cannot be read, or holds no layer, decides how loading fails.  If there is none,
each scope has the layer of its file, and there is a scope to write to in any case.

* `Session.LoadFault` : why a file cannot be loaded.
* `Session.IsLayerOf` : the layer of a file.
* `Workspace.IsLoadedAs` : the layers of the settings files.
* `Workspace.run_loadLayers_eq` : loading fails with the fault of the first file at fault, and
  otherwise finds these layers.
-/

namespace FormatChain

open Session (WithEvents)
open Settings (Layer PerScope Places Scope)

/-! ## One file -/

theorem Failure.collapses_iff {e : Failure} :
    e.collapses = true ↔ ∃ scope path, e = .settingsMalformed scope path .numberTooLarge := by
  unfold collapses
  split
  · simp
  · next hother => simpa using hother

namespace Session

variable {s : Session} {scope : Scope} {path : Path} {layer : Layer} {e : Failure}

/-- Why the file of a scope cannot be loaded: it is there, and cannot be read or holds no layer. -/
inductive LoadFault (s : Session) (file : Scope × Path) : Failure → Prop
  | unreadable {cause : Failure} (hthere : s.pathExists file.2 = true)
      (hread : s.read file.2 = .error cause) :
      LoadFault s file (.settingsUnreadable file.1 file.2 cause)
  | malformed {text : String} {cause : Settings.ParseError} (hthere : s.pathExists file.2 = true)
      (hread : s.read file.2 = .ok text) (hparse : Layer.parse text = .error cause) :
      LoadFault s file (.settingsMalformed file.1 file.2 cause)

/-- The layer is that of the file under a path: empty and writable if there is no file, and
otherwise what its text says, with the path, and with the mark against writing if it has one. -/
inductive IsLayerOf (s : Session) (path : Path) : Layer → Prop
  | missing (hthere : s.pathExists path = false) : IsLayerOf s path .empty
  | parsed {text : String} {layer : Layer} (hthere : s.pathExists path = true)
      (hread : s.read path = .ok text) (hparse : Layer.parse text = .ok layer) :
      IsLayerOf s path { layer with filePath := some path, readOnly := s.isReadOnly path }

theorem loaded_eq_error_iff : s.loaded scope path = .error e ↔ s.LoadFault (scope, path) e := by
  constructor
  · intro h
    unfold loaded at h
    split at h
    · next hthere =>
      split at h
      · next hread =>
        obtain rfl := Except.error.inj h
        exact .unreadable hthere hread
      · next hread =>
        split at h
        · next hparse =>
          obtain rfl := Except.error.inj h
          exact .malformed hthere hread hparse
        · exact absurd h (by simp)
    · exact absurd h (by simp)
  · intro h
    cases h with
    | unreadable hthere hread => rw [loaded, if_pos hthere, hread]
    | malformed hthere hread hparse =>
      rw [loaded, if_pos hthere, hread]
      simp only [hparse]

theorem isLayerOf_of_loaded (h : s.loaded scope path = .ok layer) : s.IsLayerOf path layer := by
  unfold loaded at h
  split at h
  · next hthere =>
    split at h
    · exact absurd h (by simp)
    · next hread =>
      split at h
      · exact absurd h (by simp)
      · next hparse =>
        obtain rfl := Except.ok.inj h
        exact .parsed hthere hread hparse
  · next hthere =>
    obtain rfl := Except.ok.inj h
    exact .missing (Bool.eq_false_iff.2 hthere)

@[simp]
theorem app_collapsedBy {α : Type} (s : Session) (result : Except Failure α) :
    (s.collapsedBy result).app = s.app := by
  cases result with
  | ok a => rfl
  | error e =>
    rw [collapsedBy]
    cases e.collapses with
    | true => rfl
    | false => rfl

/-- The program collapses under settings with a number that is too large. -/
theorem collapsed_collapsedBy {α : Type} (s : Session) (result : Except Failure α) :
    (s.collapsedBy result).collapsed = true ↔ s.collapsed = true ∨
      ∃ scope path, result = .error (.settingsMalformed scope path .numberTooLarge) := by
  cases result with
  | ok a => simp [collapsedBy]
  | error e =>
    rw [collapsedBy]
    simp only [Except.error.injEq, ← Failure.collapses_iff]
    cases e.collapses with
    | true => simp
    | false => simp

/-! ## Several files -/

variable {files : List (Scope × Path)} {layers made : PerScope Layer}

/-- Loading fails with the fault of the first file at fault. -/
theorem loadedFrom_eq_error_iff :
    s.loadedFrom layers files = .error e ↔ FirstAtFault s.LoadFault files e := by
  induction files generalizing layers with
  | nil =>
    refine iff_of_false (by simp [loadedFrom]) ?_
    rintro ⟨before, file, after, heq, -⟩
    exact absurd heq (by simp)
  | cons file rest ih =>
    obtain ⟨scope, path⟩ := file
    have hfile : ∀ e', s.LoadFault (scope, path) e' ↔ s.loaded scope path = .error e' :=
      fun _ => loaded_eq_error_iff.symm
    rw [loadedFrom, firstAtFault_cons]
    simp only [hfile]
    cases s.loaded scope path with
    | error e' => simp
    | ok layer => simp [ih]

/-- What is not loaded stays as it was. -/
theorem get?_of_loadedFrom (h : s.loadedFrom layers files = .ok made)
    (hscope : scope ∉ files.map Prod.fst) : made.get? scope = layers.get? scope := by
  induction files generalizing layers with
  | nil =>
    obtain rfl := Except.ok.inj h
    rfl
  | cons file rest ih =>
    obtain ⟨first, path⟩ := file
    rw [List.map_cons, List.mem_cons, not_or] at hscope
    rw [loadedFrom] at h
    cases hlayer : s.loaded first path with
    | error e => simp [hlayer] at h
    | ok layer =>
      rw [hlayer] at h
      rw [ih h hscope.2, PerScope.get?_set, if_neg fun heq => hscope.1 heq.symm]

/-- Each scope has the layer of its file. -/
theorem exists_isLayerOf_of_loadedFrom (hscopes : (files.map Prod.fst).Nodup)
    (h : s.loadedFrom layers files = .ok made) :
    ∀ file ∈ files, ∃ layer, made.get? file.1 = some layer ∧ s.IsLayerOf file.2 layer := by
  induction files generalizing layers with
  | nil => exact fun _ hmem => absurd hmem List.not_mem_nil
  | cons file rest ih =>
    obtain ⟨scope, path⟩ := file
    obtain ⟨hfresh, hrest⟩ := List.nodup_cons.1 hscopes
    rw [loadedFrom] at h
    cases hlayer : s.loaded scope path with
    | error e => simp [hlayer] at h
    | ok layer =>
      rw [hlayer] at h
      refine List.forall_mem_cons.2 ⟨⟨layer, ?_, isLayerOf_of_loaded hlayer⟩, ih hrest h⟩
      rw [get?_of_loadedFrom h hfresh, PerScope.get?_set, if_pos rfl]

end Session

/-! ## The settings files -/

namespace Workspace

variable {s s' : Session} {places : Places} {layers : PerScope Layer}

theorem scopes_toList (places : Places) :
    places.toList.map Prod.fst = (places.global.map fun _ => Scope.global).toList ++
      [Scope.workspace] ++ (places.folder.map fun _ => Scope.workspaceFolder).toList := by
  obtain ⟨_ | global, workspace, _ | folder⟩ := places
  · rfl
  · rfl
  · rfl
  · rfl

theorem nodup_scopes (places : Places) : (places.toList.map Prod.fst).Nodup := by
  rw [scopes_toList]
  cases places.global with
  | none =>
    cases places.folder with
    | none => simp
    | some folder => simp
  | some global =>
    cases places.folder with
    | none => simp
    | some folder => simp

/-- The layers are those of the settings files. -/
structure IsLoadedAs (s : Session) (places : Places) (layers : PerScope Layer) : Prop where
  /-- There are always the global scope and that of the workspace, and that of the folder if it has
  a file. -/
  scopes : (Settings.ofLayers layers).availableScopes =
    [.global, .workspace] ++ (places.folder.map fun _ => Scope.workspaceFolder).toList
  /-- The layer of a scope is that of its file. -/
  layer : ∀ file ∈ places.toList,
    ∃ layer, layers.get? file.1 = some layer ∧ s.IsLayerOf file.2 layer
  /-- Without a place for a global file the global layer is empty. -/
  unplaced : places.global = none → layers.global = some .empty

/-- Layers that were loaded are those of the files. -/
theorem isLoadedAs_of_loadedFrom
    (h : s.loadedFrom { global := if places.global.isNone then some .empty else none }
      places.toList = .ok layers) : IsLoadedAs s places layers := by
  have hlayer := Session.exists_isLayerOf_of_loadedFrom (nodup_scopes places) h
  have hkept := fun scope => @Session.get?_of_loadedFrom s scope _ _ _ h
  simp only [scopes_toList] at hkept
  have hunplaced : places.global = none → layers.global = some .empty := by
    intro hnone
    have hstart := hkept .global (by simp [hnone])
    rw [hnone] at hstart
    exact hstart
  have hglobal : ∃ layer, layers.global = some layer := by
    cases hplace : places.global with
    | none => exact ⟨_, hunplaced hplace⟩
    | some file =>
      obtain ⟨layer, hget, -⟩ := hlayer (.global, file) (by simp [Places.toList, hplace])
      exact ⟨layer, hget⟩
  have hworkspace : ∃ layer, layers.workspace = some layer := by
    obtain ⟨layer, hget, -⟩ := hlayer (.workspace, places.workspace) (by simp [Places.toList])
    exact ⟨layer, hget⟩
  have hfolder : layers.workspaceFolder.isSome = places.folder.isSome := by
    cases hplace : places.folder with
    | none =>
      have hstart := hkept .workspaceFolder (by simp [hplace])
      exact congrArg Option.isSome hstart
    | some file =>
      obtain ⟨layer, hget, -⟩ := hlayer (.workspaceFolder, file) (by simp [Places.toList, hplace])
      exact congrArg Option.isSome hget
  refine ⟨?_, hlayer, hunplaced⟩
  obtain ⟨global, hglobal⟩ := hglobal
  obtain ⟨workspace, hworkspace⟩ := hworkspace
  rw [Settings.availableScopes, Settings.layers_ofLayers]
  obtain ⟨_, _, folder⟩ := layers
  obtain rfl := hglobal
  obtain rfl := hworkspace
  cases hplace : places.folder with
  | none =>
    rw [hplace] at hfolder
    obtain rfl := Option.isNone_iff_eq_none.1 (Option.isSome_eq_false_iff.1 hfolder)
    rfl
  | some file =>
    rw [hplace] at hfolder
    obtain ⟨layer, rfl⟩ := Option.isSome_iff_exists.1 hfolder
    rfl

/-- **Loading fails with the fault of the first file at fault,** in the order of the scopes, and
otherwise finds the layers of the files.  It does not go on with a number that is too large. -/
theorem run_loadLayers_eq (places : Places) (s : Session) :
    ∃ result said, (loadLayers places).run s = (result, said.collapsedBy result) ∧
      WithEvents s said ∧
      (∀ e, result = .error e ↔ FirstAtFault s.LoadFault places.toList e) ∧
      ∀ layers, result = .ok layers → IsLoadedAs s places layers := by
  obtain ⟨said, hsaid, hrun⟩ := run_loadFrom places.toList
    { global := if places.global.isNone then some .empty else none } s
  exact ⟨_, said, hrun, hsaid, fun e => Session.loadedFrom_eq_error_iff,
    fun layers => isLoadedAs_of_loadedFrom⟩

end Workspace

end FormatChain
