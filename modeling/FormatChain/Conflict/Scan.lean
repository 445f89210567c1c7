import FormatChain.Chain
import FormatChain.Conflict.Record
import FormatChain.Settings.Warned
import FormatChain.Text.Search

/-!
# Conflicts with the editor

A language has a conflict if the editor formats it on save with a formatter of its own, because the
chain will not run then.  A scan compares the languages with those recorded by the scans before it,
and reports and announces only what is new and what is over.

* `Conflict.offender` : the formatter that makes a language conflict.
* `Conflict.scan` : a scan of all languages of interest.
* `Conflict.isAffectingKey` : whether a change of a setting can affect a scan.
-/

namespace FormatChain.Conflict

open FormatChain.Json FormatChain.Text

/-- A language and the editor's formatter for it. -/
structure LanguageConflict where
  /-- The language. -/
  language : String
  /-- The formatter. -/
  formatter : String
  deriving Repr, DecidableEq

/-- What a scan found. -/
structure ScanReport where
  /-- The conflicts that are new. -/
  newConflicts : List LanguageConflict := []
  /-- The languages whose conflict is over. -/
  resolved : List String := []
  /-- The languages that cannot be judged. -/
  errored : List String := []
  deriving Repr, DecidableEq, Inhabited

/-- The formatter with which the editor formats a language on save, unless it is reserved. -/
def offender (settings : Settings) (language : String) :
    Except Settings.InvalidSetting (Option String) := do
  match ← settings.read decodeString Settings.Key.defaultFormatter (some language) with
  | none => return none
  | some formatter =>
    if isReservedId formatter then return none
    else
      let onSave ← settings.read decodeBool Settings.Key.formatOnSave (some language)
      return if onSave.getD false then some formatter else none

/-- A scan under way: the record as it is by now, and the findings. -/
structure Progress where
  /-- The languages recorded by now. -/
  record : Record
  /-- The findings. -/
  report : ScanReport := {}

/-- The announcement of a new conflict. -/
def conflictMessage (conflict : LanguageConflict) : String :=
  s!"'{conflict.formatter}' formats {conflict.language} files on save, so the formatter chain will "
    ++ s!"not run for them. Disable {Settings.Key.formatOnSave} for [{conflict.language}] or set "
    ++ s!"its {Settings.Key.defaultFormatter} to chainfmt."

/-- The announcement that a conflict is over. -/
def resolvedMessage (language : String) : String :=
  s!"The formatting conflict for {language} files is resolved."

namespace Progress

/-- Records a conflict, and announces it if it is new. -/
def add (p : Progress) (conflict : LanguageConflict) : Noted Progress :=
  if p.record.contains conflict.language then pure p
  else
    ⟨{ record := p.record.insert conflict.language
       report :=
        { p.report with newConflicts := p.report.newConflicts ++ [conflict] } },
      [.warn (conflictMessage conflict), .notify .warning (conflictMessage conflict)]⟩

/-- Drops a language without a conflict, and announces it if there was one. -/
def drop (p : Progress) (language : String) : Noted Progress :=
  if p.record.contains language then
    ⟨{ record := p.record.erase language
       report := { p.report with resolved := p.report.resolved ++ [language] } },
      [.info (resolvedMessage language), .notify .info (resolvedMessage language)]⟩
  else pure p

/-- Reports a language that cannot be judged. Its record stays. -/
def fail (p : Progress) (language : String) (cause : Settings.InvalidSetting) : Noted Progress :=
  ⟨{ p with report := { p.report with errored := p.report.errored ++ [language] } },
    [.error s!"Failed checking '{language}' for formatting conflicts. {cause.message}"]⟩

/-- Judges one language. -/
def check (settings : Settings) (p : Progress) (language : String) : Noted Progress :=
  match offender settings language with
  | .ok (some formatter) => p.add ⟨language, formatter⟩
  | .ok none => p.drop language
  | .error cause => p.fail language cause

end Progress

/-- The languages that a scan looks at: the listed ones, or else those with settings of their
own. -/
def scannedLanguages (settings : Settings) : Noted (List String) := do
  let listed ← settings.readOrWarn decodeStrings Settings.Key.languages none
  let listed := listed.getD []
  return if listed.isEmpty then settings.languageIds else listed

/-- A scan with the languages to look at. Recorded languages that are not looked at have no conflict
any more. -/
def scanLanguages (settings : Settings) (record : Record) (languages : List String) :
    Noted Progress := do
  Noted.note (.debug s!"Scanning {languages.length} languages for formatting conflicts.")
  let checked ← languages.foldlM (Progress.check settings) { record }
  let unscanned := checked.record.languages.filter fun language => !languages.contains language
  unscanned.foldlM Progress.drop checked

/-- A scan. Without warnings the record is emptied, and nothing is announced. -/
def scan (settings : Settings) (record : Record) : Noted Progress := do
  let shown ← settings.readOrWarn decodeBool Settings.Key.showConflictWarnings none
  if shown.getD true then
    scanLanguages settings record (← scannedLanguages settings)
  else
    let count := record.languages.length
    if count > 0 then
      Noted.note (.debug s!"Conflict warnings are disabled. Clearing {count} recorded conflicts.")
    return { record := .empty }

/-! ## Changes of settings -/

/-- The settings that scans read. -/
def affectingKeys : List String :=
  [Settings.Key.defaultFormatter, Settings.Key.formatOnSave, Settings.Key.languages,
    Settings.Key.showConflictWarnings]

/-- A qualified key without the language before it. -/
def unqualified (key : String) : String :=
  if key.toList.head? == some '[' then
    match afterLast? [']', '.'] key.toList with
    | some rest => String.ofList rest
    | none => key
  else key

/-- Whether a change of a setting can affect a scan. -/
def isAffectingKey (key : String) : Bool :=
  affectingKeys.contains (unqualified key)

end FormatChain.Conflict
