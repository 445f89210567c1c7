import FormatChain.Chain
import FormatChain.Run.Host
import FormatChain.Settings.Keys
import FormatChain.Settings.Layered

/-!
# Making a formatter the active one

A run names a formatter in the slot of a language, and waits until the editor has noticed.

* `Slot`, `Slot.acquire` : the setting of a language, with the value that was found in it.
* `Slot.activate`, `Slot.restore` : naming a formatter, and putting back what was found.
* `Slot.active?` : the formatter that the editor would take now.
* `Confirmer` : a way of finding out whether a formatter became active.
* `Host.poll` : looking as often as a policy says.
-/

/-!
## The slot of the active formatter

The editor formats a language with the formatter that a setting names.  A run takes hold of this
setting for its language at the narrowest scope, names one formatter after the other in it, and
restores it at the end.
-/

namespace FormatChain

open FormatChain.Json
open FormatChain.Settings (Scope WriteError)

/-- The setting that names the active formatter of a language. -/
structure Slot where
  /-- The scope at which it is written. -/
  scope : Scope
  /-- The language. -/
  language : String
  /-- The value that was found there. -/
  found : Option Value
  /-- Whether it was written since. -/
  modified : Bool := false

namespace Slot

/-- Takes hold of the setting for a language at the narrowest scope. -/
def acquire (settings : Settings) (language : String) : Except WriteError Slot :=
  match settings.narrowestScope? with
  | none => .error .noScopes
  | some scope =>
    .ok { scope, language, found := settings.raw? scope Settings.Key.defaultFormatter language }

/-- Names a formatter: the slot and the settings after it. -/
def activate (slot : Slot) (id : String) (settings : Settings) :
    Except WriteError (Slot × Settings) :=
  match settings.setRaw slot.scope Settings.Key.defaultFormatter slot.language
      (some (.string id)) with
  | .ok settings => .ok ({ slot with modified := true }, settings)
  | .error e => .error e

/-- The formatter that the editor would take for the language. -/
def active? (slot : Slot) (settings : Settings) : Option String :=
  match settings.value? Settings.Key.defaultFormatter slot.language with
  | some (.string id) => some id
  | _ => none

/-- Whether the editor would take the formatter. -/
def isActive (slot : Slot) (id : String) (settings : Settings) : Bool :=
  slot.active? settings == some id

/-- Puts back what was found, if a formatter was named since. -/
def restore (slot : Slot) (settings : Settings) : Except WriteError Settings :=
  if slot.modified then
    settings.setRaw slot.scope Settings.Key.defaultFormatter slot.language slot.found
  else .ok settings

end Slot

end FormatChain

/-!
## Waiting for a formatter to become active

The editor may take a while to notice that another formatter was named.  A run looks a few times,
with pauses between the looks, and goes on in any case.
-/

namespace FormatChain

/-- A way of finding out whether a formatter became the active one of a slot. -/
abbrev Confirmer := Slot → String → ActivationPolicy → Action Bool

namespace Host

/-- Looks for a formatter, after so many looks without seeing it. -/
def see (slot : Slot) (id : String) (before : Nat) : Action Bool := do
  let seen := slot.isActive id (← Action.settings)
  if seen && before > 0 then
    Action.debug s!"Confirmed '{id}' as active after {before + 1} attempts."
  return seen

/-- Looks for a formatter, and up to so many times more while it is not seen, after so many looks
before. -/
def look (host : Host) (slot : Slot) (id : String) (interval : Nat) : Nat → Nat → Action Bool
  | before, 0 => see slot id before
  | before, more + 1 => do
    if ← see slot id before then return true
    else
      host.sleep interval
      host.look slot id interval (before + 1) more

/-- Looks for a formatter as often as the policy says, and not again after it was seen. -/
def poll (host : Host) : Confirmer := fun slot id policy =>
  match policy.attempts with
  | 0 => return false
  | more + 1 => host.look slot id policy.interval 0 more

end Host

end FormatChain
