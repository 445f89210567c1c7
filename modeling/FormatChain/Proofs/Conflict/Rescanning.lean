import FormatChain.Command.CheckConflicts
import FormatChain.Proofs.Conflict.Scanning
import FormatChain.Proofs.Session.Actions
import FormatChain.Proofs.Settings.Changing

/-!
# Scanning again after a change

An application that hears of changed settings scans again only if one of the keys that scans read
has changed.  What a scan finds about a language depends on these keys alone.  Which languages it
looks at depends on them too, and, as long as no languages are listed, on the blocks that the
settings have.

* `Conflict.sameOption_value?_of_unaffected` : the values that scans read, where none of their keys
  has changed.
* `Conflict.IsOverlooked` : the languages of which the application does not hear in time.
* `Conflict.onConfigurationChanged_complete_iff` : hearing of a change is as good as a scan, but for
  these.
-/

namespace FormatChain.Conflict

open FormatChain.Json FormatChain.Text
open FormatChain.Settings (PerScope Layer AllFromText changedKeys overrideKey sameOption)

variable {old new : Settings} {language : String}

/-! ## Keys that affect scans -/

theorem isAffectingKey_of_mem {key : String} (hkey : key ∈ affectingKeys) :
    isAffectingKey key = true := by
  have hall : ∀ key ∈ affectingKeys, isAffectingKey key = true := by decide
  exact hall key hkey

theorem head?_ne_of_mem {key : String} (hkey : key ∈ affectingKeys) :
    key.toList.head? ≠ some '[' := by
  have hall : ∀ key ∈ affectingKeys, key.toList.head? ≠ some '[' := by decide
  exact hall key hkey

/-- A key that affects scans does so for every language. -/
theorem isAffectingKey_overrideKey (language : String) {key : String}
    (hkey : key ∈ affectingKeys) : isAffectingKey (overrideKey language key) = true := by
  have hall : ∀ key ∈ affectingKeys,
      afterLast? [']', '.'] (']' :: '.' :: key.toList) = some key.toList := by decide
  have hafter : afterLast? [']', '.'] (overrideKey language key).toList = some key.toList := by
    rw [Settings.toList_overrideKey]
    exact afterLast?_append ('[' :: language.toList) (hall key hkey)
  have hhead : (overrideKey language key).toList.head? = some '[' := by
    rw [Settings.toList_overrideKey]
    rfl
  rw [isAffectingKey, unqualified, hhead, hafter]
  simpa using hkey

/-! ## What is read of a language -/

/-- A scan judges a language by two settings. -/
theorem toOption_offender (settings : Settings) (language : String) :
    (offender settings language).toOption =
      (settings.read decodeString Settings.Key.defaultFormatter (some language)).toOption.bind
        fun formatter => formatter.elim (some none) fun formatter =>
          if isReservedId formatter then some none
          else
            (settings.read decodeBool Settings.Key.formatOnSave (some language)).toOption.map
              fun onSave => if onSave.getD false then some formatter else none := by
  rw [offender]
  rcases settings.read decodeString Settings.Key.defaultFormatter (some language)
    with e | (_ | formatter)
  · rfl
  · rfl
  · by_cases hreserved : isReservedId formatter = true
    · simp [hreserved, bind, Except.bind, pure, Except.pure, Except.toOption]
    · cases settings.read decodeBool Settings.Key.formatOnSave (some language) <;>
        simp [hreserved, bind, Except.bind, pure, Except.pure, Except.toOption]

theorem conflict?_eq (settings : Settings) (language : String) :
    conflict? settings language =
      (offender settings language).toOption.join.map (⟨language, ·⟩) := by
  rw [conflict?]
  rcases offender settings language with e | (_ | formatter) <;> rfl

theorem isUnjudged_eq (settings : Settings) (language : String) :
    isUnjudged settings language = (offender settings language).toOption.isNone := by
  rw [isUnjudged]
  rcases offender settings language with e | (_ | formatter) <;> rfl

/-! ## Changes that affect no scan -/

section Unaffected

variable (hold : AllFromText old.layers) (hnew : AllFromText new.layers)
  (hunaffected : ∀ key ∈ changedKeys old.layers new.layers, isAffectingKey key = false)

include hold hnew hunaffected

/-- **Where no key that affects scans has changed, scans read the same values.** -/
theorem sameOption_value?_of_unaffected {key : String} (hkey : key ∈ affectingKeys)
    (language : Option String) :
    sameOption (new.value? key language) (old.value? key language) = true := by
  refine Settings.sameOption_value?_of_unchanged hold hnew (head?_ne_of_mem hkey)
    (fun hmem => ?_) fun l _ hmem => ?_
  · exact Bool.false_ne_true ((hunaffected _ hmem).symm.trans (isAffectingKey_of_mem hkey))
  · exact Bool.false_ne_true
      ((hunaffected _ hmem).symm.trans (isAffectingKey_overrideKey l hkey))

theorem read_toOption_of_unaffected {α : Type} {decode : Decoder α} (hdecode : decode.Respects)
    {key : String} (hkey : key ∈ affectingKeys) (language : Option String) :
    (new.read decode key language).toOption = (old.read decode key language).toOption :=
  Settings.read_toOption_of_same hdecode
    (sameOption_value?_of_unaffected hold hnew hunaffected hkey language)

theorem toOption_offender_of_unaffected (language : String) :
    (offender new language).toOption = (offender old language).toOption := by
  rw [toOption_offender, toOption_offender,
    read_toOption_of_unaffected hold hnew hunaffected decodeString_respects (by decide),
    read_toOption_of_unaffected hold hnew hunaffected decodeBool_respects (by decide)]

theorem conflict?_of_unaffected (language : String) :
    conflict? new language = conflict? old language := by
  rw [conflict?_eq, conflict?_eq, toOption_offender_of_unaffected hold hnew hunaffected]

theorem isUnjudged_of_unaffected (language : String) :
    isUnjudged new language = isUnjudged old language := by
  rw [isUnjudged_eq, isUnjudged_eq, toOption_offender_of_unaffected hold hnew hunaffected]

theorem warningsShown_of_unaffected : warningsShown new = warningsShown old := by
  rw [warningsShown, warningsShown,
    read_toOption_of_unaffected hold hnew hunaffected decodeBool_respects (by decide)]

theorem listed_of_unaffected : listed new = listed old := by
  rw [listed, listed,
    read_toOption_of_unaffected hold hnew hunaffected decodeStrings_respects (by decide)]

end Unaffected

/-! ## Languages that come and go -/

/-- A change gives a language its first block, or takes its last one, without a change of any key
that scans read; and a scan would record the language, or forget it. -/
structure IsOverlooked (old new : Settings) (record : Record) (language : String) : Prop where
  unaffected : ∀ key ∈ changedKeys old.layers new.layers, isAffectingKey key = false
  shown : warningsShown new = true
  unlisted : (listed new).isEmpty = true
  block : language ∉ old.languageIds ∧ language ∈ new.languageIds ∧
      (conflict? new language).isSome = true ∨
    language ∈ old.languageIds ∧ language ∉ new.languageIds ∧ language ∈ record.languages

/-- Where no key that affects scans has changed, a scan finds the languages that were recorded,
except for those that are overlooked. -/
theorem mem_rescan_iff_of_unaffected (hold : AllFromText old.layers)
    (hnew : AllFromText new.layers)
    (hunaffected : ∀ key ∈ changedKeys old.layers new.layers, isAffectingKey key = false)
    {record earlier : Record} (hrecord : record = (scan old earlier).value.record) :
    (language ∈ record.languages ↔ language ∈ (scan new record).value.record.languages) ↔
      ¬ IsOverlooked old new record language := by
  have hconflict := conflict?_of_unaffected hold hnew hunaffected language
  have hunjudged := isUnjudged_of_unaffected hold hnew hunaffected language
  have hshown := warningsShown_of_unaffected hold hnew hunaffected
  have hlisted := listed_of_unaffected hold hnew hunaffected
  have hmem : language ∈ record.languages ↔ warningsShown old = true ∧
      language ∈ (scannedLanguages old).value ∧
        ((conflict? old language).isSome = true ∨
          isUnjudged old language = true ∧ language ∈ earlier.languages) := by
    rw [hrecord]
    exact mem_scan
  have hoverlooked : IsOverlooked old new record language ↔
      warningsShown new = true ∧ (listed new).isEmpty = true ∧
        (language ∉ old.languageIds ∧ language ∈ new.languageIds ∧
            (conflict? new language).isSome = true ∨
          language ∈ old.languageIds ∧ language ∉ new.languageIds ∧
            language ∈ record.languages) :=
    ⟨fun h => ⟨h.shown, h.unlisted, h.block⟩, fun ⟨h, h', h''⟩ => ⟨hunaffected, h, h', h''⟩⟩
  rw [mem_scan, hoverlooked, value_scannedLanguages, hconflict, hunjudged, hshown, hlisted]
  rw [value_scannedLanguages] at hmem
  cases hdark : warningsShown old with
  | false =>
    rw [hdark] at hmem
    simp [hmem]
  | true =>
    rw [hdark] at hmem
    cases hempty : (listed old).isEmpty with
    | false =>
      -- The listed languages are looked at both times.
      rw [hempty, if_neg Bool.false_ne_true] at hmem
      rw [if_neg Bool.false_ne_true]
      grind
    | true =>
      -- The languages with a block are looked at, whichever these are.
      rw [hempty, if_pos rfl] at hmem
      rw [if_pos rfl]
      grind

/-! ## Applications that hear of a change -/

/-- While there is no run, an application that hears of keys that affect scans scans again. -/
theorem conflicted_onConfigurationChanged {s : Session} (settings : Settings)
    (keys : List String) (hfree : s.app.guard.held = false) :
    (Application.onConfigurationChanged settings keys s).2.app.conflicted =
      if keys.any isAffectingKey then (scan settings s.app.conflicted).value.record
      else s.app.conflicted := by
  obtain ⟨events, hsaid⟩ :=
    Action.debug_onlySays ("Configuration changed: " ++ joined ", " keys) s
  simp only [Application.onConfigurationChanged, Application.scanAfterChange, Action.bind_apply,
    hsaid]
  split
  · simp only [Action.bind_apply, Action.get_apply, hfree]
    rfl
  · rfl

/-- Those who watch the settings files let the application hear of keys only. -/
theorem conflicted_reload (w : Watch) (layers : PerScope Layer) (s : Session) :
    (w.reload layers s).2.app.conflicted =
      (Application.onConfigurationChanged (w.settings.replaceLayers layers).2
        (w.settings.replaceLayers layers).1 s).2.app.conflicted := by
  simp only [Watch.reload]
  rcases hreplaced : w.settings.replaceLayers layers with ⟨keys, settings⟩
  cases keys with
  | nil =>
    obtain ⟨events, hsaid⟩ :=
      Action.debug_onlySays ("Configuration changed: " ++ joined ", " []) s
    simp only [Application.onConfigurationChanged, Action.bind_apply, hsaid]
    rfl
  | cons key rest =>
    simp only [List.isEmpty_cons, Bool.not_false, if_true, Action.bind_apply]
    rcases Application.onConfigurationChanged settings (key :: rest) s with ⟨_ | report, heard⟩
    · rfl
    · exact congrArg App.conflicted (Action.debug_onlySays _ heard).app

/-- **Hearing of a change is as good as a scan, but for the languages that are overlooked.**  Take
settings and other layers, all of them read from texts, an application whose record is what a scan
of the settings left, and a guard that nobody holds.  When the layers are put in place and the
application hears of the changed keys, then it records the languages that a scan would, exactly if
no language is overlooked.  Those who watch the settings files, and do not let the application hear
of a change without changed keys, end with the same record. -/
theorem onConfigurationChanged_complete_iff (w : Watch) (layers : PerScope Layer) (s : Session)
    (earlier : Record) (hold : AllFromText w.settings.layers) (hnew : AllFromText layers)
    (hrecord : s.app.conflicted = (scan w.settings earlier).value.record)
    (hfree : s.app.guard.held = false) :
    let keys := (w.settings.replaceLayers layers).1
    let settings := (w.settings.replaceLayers layers).2
    let heard := (Application.onConfigurationChanged settings keys s).2.app.conflicted
    (w.reload layers s).2.app.conflicted = heard ∧
      ((∀ language, language ∈ heard.languages ↔
          language ∈ (scan settings s.app.conflicted).value.record.languages) ↔
        ¬ ∃ language, IsOverlooked w.settings settings s.app.conflicted language) := by
  intro keys settings heard
  refine ⟨conflicted_reload w layers s, ?_⟩
  have hheard : heard = if keys.any isAffectingKey then
      (scan settings s.app.conflicted).value.record else s.app.conflicted :=
    conflicted_onConfigurationChanged settings keys hfree
  cases haffected : keys.any isAffectingKey with
  | true =>
    rw [hheard, haffected, if_pos rfl]
    refine iff_of_true (fun _ => Iff.rfl) ?_
    rintro ⟨language, hoverlooked⟩
    obtain ⟨key, hkey, haffecting⟩ := List.any_eq_true.1 haffected
    exact Bool.false_ne_true ((hoverlooked.unaffected key hkey).symm.trans haffecting)
  | false =>
    have hunaffected : ∀ key ∈ keys, isAffectingKey key = false := by
      simpa using haffected
    have hplaced : AllFromText settings.layers := hnew
    rw [hheard, haffected, if_neg Bool.false_ne_true, not_exists]
    exact forall_congr' fun language =>
      mem_rescan_iff_of_unaffected hold hplaced hunaffected hrecord

/-- A language that gets its first block, while the editor formats all languages on save, is not
recorded if the block only says how wide its tabs are. -/
theorem onConfigurationChanged_overlooks_first_block :
    let parsed (text : String) : Option Layer := (Layer.parse text).toOption
    let everywhere := parsed
      "\x7b\"editor.formatOnSave\": true, \"editor.defaultFormatter\": \"global.tool\"\x7d"
    let old : Settings := { layers := { global := everywhere, workspace := parsed "\x7b\x7d" } }
    let layers : PerScope Layer :=
      { global := everywhere
        workspace := parsed "\x7b\"[go]\": \x7b\"editor.tabSize\": 2\x7d\x7d" }
    let w : Watch := { places := ⟨none, ⟨"/settings.json"⟩, none⟩, settings := old, seen := .of "" }
    let s : Session := {}
    let keys := (old.replaceLayers layers).1
    let settings := (old.replaceLayers layers).2
    AllFromText old.layers ∧ AllFromText layers ∧
      s.app.conflicted = (scan old .empty).value.record ∧ s.app.guard.held = false ∧
      keys = ["[go].editor.tabSize"] ∧ IsOverlooked old settings s.app.conflicted "go" ∧
      (w.reload layers s).2.app.conflicted =
        (Application.onConfigurationChanged settings keys s).2.app.conflicted ∧
      ¬ ∀ language, language ∈
          (Application.onConfigurationChanged settings keys s).2.app.conflicted.languages ↔
        language ∈ (scan settings s.app.conflicted).value.record.languages := by
  intro parsed everywhere old layers w s keys settings
  have hparsed : ∀ text layer, parsed text = some layer → layer.FromText := by
    intro text layer hlayer
    cases hparse : Layer.parse text with
    | error e => simp [parsed, hparse, Except.toOption] at hlayer
    | ok read =>
      obtain rfl : read = layer := by simpa [parsed, hparse, Except.toOption] using hlayer
      exact ⟨text, read, hparse, rfl, rfl⟩
  obtain ⟨hrecord, hkeys, hshown, hunlisted, hblock⟩ :
      s.app.conflicted = (scan old .empty).value.record ∧ keys = ["[go].editor.tabSize"] ∧
        warningsShown settings = true ∧ (listed settings).isEmpty = true ∧
        "go" ∉ old.languageIds ∧ "go" ∈ settings.languageIds ∧
          (conflict? settings "go").isSome = true := by
    decide +kernel
  -- From here on the texts are of no account.
  clear_value parsed
  have hold : AllFromText old.layers := by
    rintro (_ | _ | _) layer hlayer
    · exact hparsed _ _ hlayer
    · exact hparsed _ _ hlayer
    · exact absurd hlayer (by simp [old, PerScope.get?])
  have hnew : AllFromText layers := by
    rintro (_ | _ | _) layer hlayer
    · exact hparsed _ _ hlayer
    · exact hparsed _ _ hlayer
    · exact absurd hlayer (by simp [layers, PerScope.get?])
  have hoverlooked : IsOverlooked old settings s.app.conflicted "go" := by
    refine ⟨?_, hshown, hunlisted, .inl hblock⟩
    rw [show changedKeys old.layers settings.layers = _ from hkeys]
    decide
  obtain ⟨hwatched, hcomplete⟩ :=
    onConfigurationChanged_complete_iff w layers s .empty hold hnew hrecord rfl
  exact ⟨hold, hnew, hrecord, rfl, hkeys, hoverlooked, hwatched,
    fun hall => hcomplete.1 hall ⟨"go", hoverlooked⟩⟩

end FormatChain.Conflict
