import FormatChain.Json.Shape
import FormatChain.Settings.Keys
import FormatChain.Settings.Layer

/-!
# Layered settings

The layers of the scopes that have one, and a count of the changes made to them.  A setting may have
a value in general and one for a language at each scope.  A value for the language beats a general
one, whatever their scopes; of two values of one kind the one at the narrower scope wins.

* `Settings` : the layers.
* `Settings.value?` : the value that counts.
* `Settings.read` : the same, read as something.
* `Settings.raw?`, `Settings.setRaw` : the value at exactly one place.
* `Settings.replaceLayers` : other layers, and the keys that change with them.
-/

namespace FormatChain

open FormatChain.Json
open FormatChain.Settings

/-- The layers of the scopes, and how often they were changed. -/
structure Settings where
  /-- The layers. -/
  layers : PerScope Layer := {}
  /-- The number of changes. -/
  version : Nat := 0
  deriving Inhabited

namespace Settings

/-- Why a setting cannot be written. -/
inductive WriteError where
  /-- There is no layer at all. -/
  | noScopes
  /-- The scope has no layer. -/
  | scopeUnavailable (scope : Scope)
  /-- The layer of the scope must not be written. -/
  | readOnly (scope : Scope)
  deriving Repr, DecidableEq

/-- The wording of a cause. -/
def WriteError.message : WriteError → String
  | .noScopes => "No settings scopes are available."
  | .scopeUnavailable scope => s!"No {scope.name} settings are available to write to."
  | .readOnly scope => s!"The {scope.name} settings are read-only."

/-- A setting whose value has the wrong shape. -/
structure InvalidSetting where
  /-- The key of the setting. -/
  key : String
  /-- What is wrong with its value. -/
  mismatch : Mismatch

/-- The wording without the reason. -/
def InvalidSetting.summary (e : InvalidSetting) : String :=
  s!"Invalid value for setting '{e.key}'."

/-- The wording with the reason. -/
def InvalidSetting.message (e : InvalidSetting) : String :=
  s!"{e.summary}: {e.mismatch.message}"

/-! ## Layers -/

/-- Settings with the layer of a scope put in place. -/
def setLayer (s : Settings) (scope : Scope) (layer : Layer) : Settings :=
  ⟨s.layers.set scope layer, s.version + 1⟩

/-- Settings made of the layers, broadest first. -/
def ofLayers (layers : PerScope Layer) : Settings :=
  layers.toList.foldl (fun s entry => s.setLayer entry.1 entry.2) {}

/-- The scopes that have a layer, broadest first. -/
def availableScopes (s : Settings) : List Scope :=
  s.layers.toList.map Prod.fst

/-- The narrowest scope that has a layer. -/
def narrowestScope? (s : Settings) : Option Scope :=
  s.availableScopes.getLast?

/-- The languages with a block in some layer, in the order in which they are first met. -/
def languageIds (s : Settings) : List String :=
  (s.layers.toList.flatMap fun entry => entry.2.languages.names).foldl
    (fun seen language => if seen.contains language then seen else seen ++ [language]) []

/-! ## Values -/

/-- The values of one key at a scope. -/
structure ScopedValues where
  /-- The scope. -/
  scope : Scope
  /-- The value set in general. -/
  general : Option Value
  /-- The value set for the language. -/
  language : Option Value

/-- The values of a key at every scope, broadest first. -/
def inspect (s : Settings) (key : String) (language : Option String) : List ScopedValues :=
  s.layers.toList.map fun (scope, layer) =>
    { scope
      general := layer.get? key none
      language := language.bind fun l => layer.get? key (some l) }

/-- The narrowest value set for the language. -/
def languageValue? (values : List ScopedValues) : Option Value :=
  values.reverse.findSome? (·.language)

/-- The narrowest value set in general. -/
def generalValue? (values : List ScopedValues) : Option Value :=
  values.reverse.findSome? (·.general)

/-- The value that counts: the one for the language before the general one. -/
def effectiveValue? (values : List ScopedValues) : Option Value :=
  languageValue? values <|> generalValue? values

/-- The value of a key that counts for a language, or without one. -/
def value? (s : Settings) (key : String) (language : Option String) : Option Value :=
  effectiveValue? (s.inspect key language)

/-- Reads a value that is there. -/
def decodeValue {α : Type} (decode : Decoder α) (key : String) (value : Value) :
    Except InvalidSetting α :=
  (decode value).mapError (⟨key, ·⟩)

/-- The value of a key that counts, read as something; none if there is no value. -/
def read {α : Type} (s : Settings) (decode : Decoder α) (key : String)
    (language : Option String) : Except InvalidSetting (Option α) :=
  match s.value? key language with
  | some value => (decodeValue decode key value).map some
  | none => .ok none

/-- The value at exactly one place. -/
def raw? (s : Settings) (scope : Scope) (key : String) (language : Option String) : Option Value :=
  (s.layers.get? scope).bind (·.get? key language)

/-- Sets or removes the value at exactly one place. -/
def setRaw (s : Settings) (scope : Scope) (key : String) (language : Option String)
    (value : Option Value) : Except WriteError Settings :=
  match s.layers.get? scope with
  | none => .error (.scopeUnavailable scope)
  | some layer =>
    if layer.readOnly then .error (.readOnly scope)
    else .ok (s.setLayer scope (layer.set key language value))

/-! ## Other layers -/

/-- Appends a key unless it is there. -/
def addKey (keys : List String) (key : String) : List String :=
  if keys.contains key then keys else keys ++ [key]

/-- Whether two values of a key, where there are any, are the same. -/
def sameOption : Option Value → Option Value → Bool
  | some a, some b => a.same b
  | none, none => true
  | _, _ => false

/-- Adds the qualified keys whose values differ between two layers: those of the old layer in its
order, then those that only the new one has. -/
def addChangedKeys (keys : List String) (old new : Layer) : List String :=
  let oldKeys := old.qualifiedKeys
  let newKeys := new.qualifiedKeys
  let keys := oldKeys.foldl
    (fun keys entry =>
      if sameOption (Entries.get? entry.1 newKeys) (some entry.2) then keys
      else addKey keys entry.1) keys
  newKeys.foldl
    (fun keys entry =>
      if (Entries.get? entry.1 oldKeys).isSome then keys else addKey keys entry.1) keys

/-- The qualified keys whose values differ at some scope, a missing layer counting as empty. -/
def changedKeys (old new : PerScope Layer) : List String :=
  Scope.all.foldl
    (fun keys scope =>
      addChangedKeys keys ((old.get? scope).getD .empty) ((new.get? scope).getD .empty)) []

/-- Puts other layers in place of all layers: the keys that change, and the settings after it. -/
def replaceLayers (s : Settings) (layers : PerScope Layer) : List String × Settings :=
  (changedKeys s.layers layers, ⟨layers, s.version + 1⟩)

end Settings

end FormatChain
