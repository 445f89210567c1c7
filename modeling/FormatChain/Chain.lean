import FormatChain.Language
import FormatChain.Settings.Keys
import FormatChain.Text.Characters
import FormatChain.Text.Lowercase
import FormatChain.Text.Search

/-!
# Chains of formatters

The settings of a language say which formatters format it in which order, and how.

A chain names formatters in the order in which they run; a formatter may run more than once.  The
program itself is no formatter: its own name in any case, and blank names, are never in a chain.

* `isReservedId` : whether a name is kept out of chains.
* `Chain` : the names in order, none of them reserved.
* `Chain.ofIds` : the chain of those names that may stand in one.
* `ActivationPolicy` : how long to wait for a formatter to become the active one.
* `RunOptions` : the pauses and the saving of a run.
* `isLanguageEnabled` : whether chains run for a language.
* `resolveChain` : the chain of a language.
* `resolveRunOptions` : how it runs.
-/

namespace FormatChain

open FormatChain.Text

/-- Whether the name is blank, or the program's own in any case, with white space around it. -/
def isReservedId (id : String) : Bool :=
  (trim id).isEmpty || equalsIgnoringAsciiCase (trim id) Settings.programName

/-- Formatters in the order in which they run. -/
structure Chain where
  /-- The ids, in order. -/
  ids : List String
  /-- None of them is reserved. -/
  unreserved : ∀ id ∈ ids, isReservedId id = false
  deriving Repr, DecidableEq

namespace Chain

/-- The chain of the ids that are not reserved. -/
def ofIds (ids : List String) : Chain :=
  ⟨ids.filter fun id => !isReservedId id, fun id h => by simpa using (List.mem_filter.1 h).2⟩

/-- The chain without formatters. -/
def empty : Chain := ⟨[], fun _ h => absurd h List.not_mem_nil⟩

/-- The first formatters of a chain. -/
def take (c : Chain) (n : Nat) : Chain :=
  ⟨c.ids.take n, fun id h => c.unreserved id (List.mem_of_mem_take h)⟩

/-- Whether there are no formatters. -/
def isEmpty (c : Chain) : Bool := c.ids.isEmpty

/-- How many formatters run. -/
def length (c : Chain) : Nat := c.ids.length

/-- How a chain is shown. -/
def text (c : Chain) : String :=
  if c.ids.isEmpty then "(empty)" else joined " -> " c.ids

end Chain

end FormatChain

/-! ## How a chain runs -/

namespace FormatChain

/-- How often, and at which distance, to look whether a formatter became active. -/
structure ActivationPolicy where
  /-- The number of looks. -/
  attempts : Nat
  /-- The milliseconds between two looks. -/
  interval : Nat
  deriving Repr, DecidableEq

/-- How a chain runs. -/
structure RunOptions where
  /-- The milliseconds that the editor gets after each write and each formatter. -/
  delay : Nat
  /-- Whether to save after each formatter. -/
  saveAfterEach : Bool
  /-- Whether to save after the chain. -/
  saveAfterChain : Bool
  /-- How to wait for a formatter to become active. -/
  activation : ActivationPolicy
  deriving Repr, DecidableEq

end FormatChain

/-!
## The chain and the options of a language

The editor's formatter for the language runs first, unless it is this program.  After it run the
formatters of the first list that says something: the one for the language, the one for its family,
and the general one.  A list for a language says something if some formatter in it is not reserved.
-/

namespace FormatChain

open FormatChain.Json

/-- Whether chains run for the language: the list of languages is empty or has it. -/
def isLanguageEnabled (settings : Settings) (language : String) : Noted Bool := do
  let languages ← settings.readOrWarn decodeStrings Settings.Key.languages none
  let languages := languages.getD []
  return languages.isEmpty || languages.contains language

/-- The formatters that the narrowest block of a language lists, if some are not reserved. -/
def blockFormatters? (settings : Settings) (language : String) : Noted (Option (List String)) :=
  let values := settings.inspect Settings.Key.formatters (some language)
  match Settings.languageValue? values with
  | none => pure none
  | some value => do
    let listed ← Settings.decodeOrWarn decodeStrings Settings.Key.formatters value
    let formatters := (listed.getD []).filter fun id => !isReservedId id
    return if formatters.isEmpty then none else some formatters

/-- The formatters that the family of a language lists. -/
def familyFormatters? (settings : Settings) (language : String) :
    Noted (Option (List String)) := do
  match ← family? settings language with
  | none => return none
  | some family =>
    Noted.note (.debug s!"Looking up formatters for '{language}' using family '{family}'.")
    blockFormatters? settings family

/-- The formatters that the narrowest general list has. -/
def generalFormatters? (settings : Settings) : Noted (Option (List String)) :=
  let values := settings.inspect Settings.Key.formatters none
  match Settings.generalValue? values with
  | none => pure none
  | some value => Settings.decodeOrWarn decodeStrings Settings.Key.formatters value

/-- The formatters of the first list that says something. -/
def listedFormatters (settings : Settings) (language : String) : Noted (List String) := do
  match ← blockFormatters? settings language with
  | some formatters => return formatters
  | none =>
    match ← familyFormatters? settings language with
    | some formatters => return formatters
    | none => return (← generalFormatters? settings).getD []

/-- The editor's formatter for the language, unless it is reserved. -/
def leadingFormatter (settings : Settings) (language : String) : Noted (List String) := do
  let id ← settings.readOrWarn decodeString Settings.Key.defaultFormatter (some language)
  return (id.filter fun id => !isReservedId id).toList

/-- The chain of a language. -/
def resolveChain (settings : Settings) (language : String) : Noted Chain := do
  if ← isLanguageEnabled settings language then
    let leading ← leadingFormatter settings language
    let listed ← listedFormatters settings language
    let chain := Chain.ofIds (leading ++ listed)
    Noted.note (.debug s!"Resolved chain for '{language}': {chain.text}")
    return chain
  else
    Noted.note (.debug
      s!"Language '{language}' is not in {Settings.Key.languages}. Skipping.")
    return Chain.empty

/-- The number brought into a range. -/
def clamp (low high n : Nat) : Nat := max low (min high n)

/-- How the chain of a language runs. Pauses and looks are kept within bounds. -/
def resolveRunOptions (settings : Settings) (language : String) : Noted RunOptions := do
  let language := some language
  let delay ← settings.readOrWarn (decodeWord 64) Settings.Key.formatterDelay language
  let attempts ← settings.readOrWarn (decodeWord 32) Settings.Key.activationPollAttempts language
  let interval ← settings.readOrWarn (decodeWord 64) Settings.Key.activationPollInterval language
  let each ← settings.readOrWarn decodeBool Settings.Key.saveAfterEachFormatter language
  let chain ← settings.readOrWarn decodeBool Settings.Key.saveAfterChain language
  return {
    delay := clamp 10 5000 (delay.getD 100)
    saveAfterEach := each.getD false
    saveAfterChain := chain.getD true
    activation := {
      attempts := clamp 1 100 (attempts.getD 10)
      interval := min 1000 (interval.getD 20) } }

end FormatChain
