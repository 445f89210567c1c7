/-!
# Keys and scopes of settings

A setting has a key, and is written at a scope.

* `Scope` : the scopes, from the broadest to the narrowest in `Scope.all`.
* `PerScope` : something for each scope that has it.
-/

/-!
## The keys of the settings

The program's own keys start with its name.  The two keys of the editor are only read, except that
a run sets the default formatter for a while.
-/

namespace FormatChain.Settings

/-- The name of this program. As a formatter's id it is reserved. -/
def programName : String := "chainfmt"

/-- The version of this program. -/
def programVersion : String := "0.1.0"

namespace Key

/-- The languages that chains run for; all of them if the list is empty. -/
def languages : String := "chainfmt.languages"

/-- The formatters of a chain, in order. -/
def formatters : String := "chainfmt.formatters"

/-- The milliseconds to wait after each write and each formatter. -/
def formatterDelay : String := "chainfmt.formatterDelay"

/-- Whether to save after each formatter. -/
def saveAfterEachFormatter : String := "chainfmt.saveAfterEachFormatter"

/-- Whether to save after the chain. -/
def saveAfterChain : String := "chainfmt.saveAfterChain"

/-- Whether to warn about languages that the editor formats itself. -/
def showConflictWarnings : String := "chainfmt.showFormattingConflictWarnings"

/-- How often to look whether a formatter became the active one. -/
def activationPollAttempts : String := "chainfmt.activationPollAttempts"

/-- The milliseconds between two looks. -/
def activationPollInterval : String := "chainfmt.activationPollInterval"

/-- The languages whose formatters stand in for those of another one. -/
def languageFamilies : String := "chainfmt.languageFamilies"

/-- The languages of file extensions. -/
def fileAssociations : String := "chainfmt.fileAssociations"

/-- The commands behind the formatters. -/
def formatterCommands : String := "chainfmt.formatterCommands"

/-- Whether to show what is going on. -/
def debug : String := "chainfmt.debug"

/-- The editor's formatter for a language. -/
def defaultFormatter : String := "editor.defaultFormatter"

/-- Whether the editor formats when it saves. -/
def formatOnSave : String := "editor.formatOnSave"

end Key

end FormatChain.Settings

/-!
## Scopes

Settings come from up to three files.  The scope of a file says how broad its settings are.
-/

namespace FormatChain.Settings

/-- How broad a layer of settings is. -/
inductive Scope where
  /-- All of a person's settings. -/
  | global
  /-- The settings of a workspace. -/
  | workspace
  /-- The settings of a directory inside the workspace. -/
  | workspaceFolder
  deriving Repr, DecidableEq

namespace Scope

/-- The scopes, broadest first. -/
def all : List Scope := [.global, .workspace, .workspaceFolder]

/-- The name of a scope in messages. -/
def name : Scope → String
  | .global => "global"
  | .workspace => "workspace"
  | .workspaceFolder => "workspace folder"

end Scope

/-- Something for each scope that has it. -/
structure PerScope (α : Type) where
  /-- What the global scope has. -/
  global : Option α := none
  /-- What the workspace has. -/
  workspace : Option α := none
  /-- What the directory inside the workspace has. -/
  workspaceFolder : Option α := none
  deriving Repr, DecidableEq, Inhabited

namespace PerScope

variable {α : Type}

/-- What a scope has. -/
def get? (p : PerScope α) : Scope → Option α
  | .global => p.global
  | .workspace => p.workspace
  | .workspaceFolder => p.workspaceFolder

/-- Gives a scope something. -/
def set (p : PerScope α) (scope : Scope) (value : α) : PerScope α :=
  match scope with
  | .global => { p with global := some value }
  | .workspace => { p with workspace := some value }
  | .workspaceFolder => { p with workspaceFolder := some value }

/-- What the scopes have, broadest first. -/
def toList (p : PerScope α) : List (Scope × α) :=
  Scope.all.filterMap fun scope => (p.get? scope).map (scope, ·)

/-- Setting a scope changes that scope alone. -/
theorem get?_set (p : PerScope α) (scope other : Scope) (value : α) :
    (p.set scope value).get? other = if scope = other then some value else p.get? other := by
  cases scope <;> cases other <;> rfl

end PerScope

end FormatChain.Settings
