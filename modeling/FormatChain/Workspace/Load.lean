import FormatChain.Fingerprint
import FormatChain.Path
import FormatChain.Session.Files
import FormatChain.Settings.Keys

/-!
# Loading settings

A workspace has settings in files, at places that its root and the configuration directory give.

* `settingsFile` : the settings file of a directory.
* `folderSettings?` : the file of the nearest directory around a document.
* `Places` : the files of the scopes.
* `watchedText` : the text whose fingerprint tells whether the files have changed.
* `Workspace.discover` : the settings files of a document.
* `Workspace.loadLayers` : the layers of the files.
* `Workspace.loadSettings` : the settings of a document.
* `Workspace.filesFingerprint` : tells whether the files have changed.
-/

/-!
## Where settings are kept

A directory keeps its settings in a file of its own.  The settings of a document come from the file
of the person, that of the workspace, and that of the nearest directory around the document which
has one, inside the workspace.
-/

namespace FormatChain.Settings

/-- The settings file of a directory. -/
def settingsFile (dir : Path) : Path :=
  (dir.join ⟨".chainfmt"⟩).join ⟨"settings.json"⟩

/-- The settings file of the nearest directory around a document, up to the workspace, whose file is
there. A document outside the workspace has none. -/
def folderSettings? (isThere : Path → Bool) (root document : Path) : Option Path :=
  if document.isWithin root then
    (((document.ancestors.drop 1).takeWhile fun dir => !dir.same root).map settingsFile).find?
      isThere
  else none

/-- The files of the scopes. -/
structure Places where
  /-- The person's file, if there is a place for one. -/
  global : Option Path
  /-- The file of the workspace. -/
  workspace : Path
  /-- The file of a directory inside the workspace, if one was found. -/
  folder : Option Path
  deriving Repr, DecidableEq

namespace Places

/-- The files with their scopes, broadest first. -/
def toList (places : Places) : List (Scope × Path) :=
  (places.global.map (Scope.global, ·)).toList ++ [(.workspace, places.workspace)]
    ++ (places.folder.map (Scope.workspaceFolder, ·)).toList

end Places

/-- The text of files, each under the name of its scope; a file that is not read counts as empty. -/
def watchedText (files : List (Scope × Option String)) : String :=
  String.join (files.map fun (scope, text) => scope.name ++ "\x00" ++ text.getD "" ++ "\x00")

end FormatChain.Settings

/-!
## Loading settings

The layers of the files are loaded all or not at all.  Global and workspace layers always exist,
empty if their files do not, so that there is always a scope to write to.
-/

namespace FormatChain.Workspace

open FormatChain.Json FormatChain.Text
open FormatChain.Settings (Layer PerScope Places Scope)

/-- The settings files of a document, or of the whole workspace. -/
def discover (root : Path) (document : Option Path) : Action Places := do
  let s ← get
  return {
    global := s.globalSettings
    workspace := Settings.settingsFile root
    folder := document.bind (Settings.folderSettings? s.pathExists root) }

/-- The layer of a text from a file. -/
def parseLayer (scope : Scope) (path : Path) (text : String) : Attempt Layer := do
  match Layer.parse text with
  | .ok layer => return layer
  | .error cause =>
    if cause = .numberTooLarge then
      modify fun s => { s with collapsed := true }
    throw (.settingsMalformed scope path cause)

/-- The layer of a file, empty if there is no file. -/
def loadLayer (scope : Scope) (path : Path) : Attempt Layer := do
  if (← get).pathExists path then
    Action.debug s!"Loading {scope.name} settings from {path.text}"
    let text ← (Attempt.readText path).adapt (.settingsUnreadable scope path)
    let layer ← parseLayer scope path text
    return { layer with filePath := some path, readOnly := (← get).isReadOnly path }
  else return .empty

/-- The layers of files, after those loaded before. -/
def loadFrom (layers : PerScope Layer) : List (Scope × Path) → Attempt (PerScope Layer)
  | [] => return layers
  | (scope, path) :: rest => do loadFrom (layers.set scope (← loadLayer scope path)) rest

/-- The layers of the settings files. -/
def loadLayers (places : Places) : Attempt (PerScope Layer) :=
  loadFrom { global := if places.global.isNone then some .empty else none } places.toList

/-- Starts making remarks for debugging if the settings ask for it. -/
def debugIfAsked (settings : Settings) : Action Unit := do
  let asked ← Action.tell (settings.readOrWarn decodeBool Settings.Key.debug none)
  if asked = some true && !(← get).verbose then
    Action.setVerbose true
    Action.debug s!"Debug output enabled by {Settings.Key.debug}."

/-- The settings of a document, or of the whole workspace, and their files. -/
def loadSettings (root : Path) (document : Option Path) : Attempt (Settings × Places) := do
  let places ← discover root document
  let settings := Settings.ofLayers (← loadLayers places)
  Action.debug
    ("Loaded settings scopes: " ++ joined ", " (settings.availableScopes.map Scope.name))
  debugIfAsked settings
  return (settings, places)

/-- The texts of files, as far as they can be read. -/
def readFiles : List (Scope × Path) → Action (List (Scope × Option String))
  | [] => return []
  | (scope, path) :: rest => do
    let text ← (Attempt.readText path).run
    return (scope, text.toOption) :: (← readFiles rest)

/-- The fingerprint of the settings files. -/
def filesFingerprint (places : Places) : Action Fingerprint := do
  return Fingerprint.of (Settings.watchedText (← readFiles places.toList))

/-- The path that an argument stands for. -/
def resolvePath (argument : String) : Action Path := do
  return (← get).cwd.join ⟨argument⟩

end FormatChain.Workspace
