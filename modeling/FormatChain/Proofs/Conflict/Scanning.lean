import FormatChain.Conflict.Scan
import FormatChain.Proofs.OrderedMap
import FormatChain.Proofs.Settings.Effective
import Mathlib.Data.List.Induction

/-!
# What a scan finds

A scan judges one language after the other, and a language that was met before is judged alike.  So
all that it leaves can be said at once, from the record before it and the languages that it looks
at.

* `Conflict.isClear`, `Conflict.conflict?`, `Conflict.isUnjudged` : what a language is judged to be.
* `Conflict.Found` : what was found by the time some languages were judged.
* `Conflict.scanLanguages_scanned` : what a scan of some languages records and reports.
* `Conflict.mem_scan` : the languages that are recorded after a scan.
-/

namespace FormatChain.Conflict

open FormatChain.Json

variable {settings : Settings} {record : Record} {language : String} {languages : List String}

/-! ## Judging a language -/

/-- The language was judged, and has no conflict. -/
def isClear (settings : Settings) (language : String) : Bool :=
  match offender settings language with
  | .ok none => true
  | _ => false

/-- The conflict of the language, if it was judged and has one. -/
def conflict? (settings : Settings) (language : String) : Option LanguageConflict :=
  match offender settings language with
  | .ok (some formatter) => some ⟨language, formatter⟩
  | _ => none

/-- The language cannot be judged. -/
def isUnjudged (settings : Settings) (language : String) : Bool :=
  match offender settings language with
  | .error _ => true
  | _ => false

/-- A language is clear, in conflict or not judged, and only one of them. -/
theorem judged_cases (settings : Settings) (language : String) :
    (isClear settings language = true ∧ conflict? settings language = none ∧
        isUnjudged settings language = false) ∨
      (isClear settings language = false ∧ (conflict? settings language).isSome = true ∧
        isUnjudged settings language = false) ∨
      (isClear settings language = false ∧ conflict? settings language = none ∧
        isUnjudged settings language = true) := by
  unfold isClear conflict? isUnjudged
  cases offender settings language with
  | error cause => simp
  | ok formatter => cases formatter <;> simp

/-! ## Folds with notes -/

theorem value_foldlM {α β : Type} (f : β → α → Noted β) (items : List α) (b : β) :
    (items.foldlM f b).value = items.foldl (fun b a => (f b a).value) b := by
  induction items generalizing b with
  | nil => rfl
  | cons a rest ih => rw [List.foldlM_cons, Noted.value_bind, ih, List.foldl_cons]

/-! ## Judging one language after the other -/

/-- What was found when the languages were judged, the record before it being given. -/
structure Found (settings : Settings) (record : Record) (languages : List String)
    (p : Progress) : Prop where
  recorded : p.record.languages =
    record.languages.filter (fun l => !(languages.contains l && isClear settings l)) ++
      languages.eraseDups.filter fun l => (conflict? settings l).isSome && !record.contains l
  newConflicts : p.report.newConflicts =
    (languages.eraseDups.filter (!record.contains ·)).filterMap (conflict? settings)
  resolved : p.report.resolved =
    languages.eraseDups.filter fun l => isClear settings l && record.contains l
  errored : p.report.errored = languages.filter (isUnjudged settings)

variable {p : Progress}

theorem found_nil (settings : Settings) (record : Record) :
    Found settings record [] { record } := by
  refine ⟨?_, rfl, rfl, rfl⟩
  simp [List.filter_eq_self.2]

namespace Found

theorem mem (h : Found settings record languages p) :
    language ∈ p.record.languages ↔
      language ∈ record.languages ∧ ¬ (language ∈ languages ∧ isClear settings language = true) ∨
        language ∈ languages ∧ (conflict? settings language).isSome = true ∧
          language ∉ record.languages := by
  rw [h.recorded]
  simp [Record.contains, imp_iff_not_or]

/-- A language that was not met is recorded if it was before. -/
theorem mem_of_not_met (h : Found settings record languages p) (hmet : language ∉ languages) :
    language ∈ p.record.languages ↔ language ∈ record.languages := by
  simp [h.mem, hmet]

theorem mem_of_conflict (h : Found settings record languages p) (hmet : language ∈ languages)
    (hclear : isClear settings language = false)
    (hconflict : (conflict? settings language).isSome = true) :
    language ∈ p.record.languages := by
  rw [h.mem]
  by_cases hrecorded : language ∈ record.languages
  · exact .inl ⟨hrecorded, by simp [hclear]⟩
  · exact .inr ⟨hmet, hconflict, hrecorded⟩

theorem not_mem_of_clear (h : Found settings record languages p) (hmet : language ∈ languages)
    (hclear : isClear settings language = true) (hconflict : conflict? settings language = none) :
    language ∉ p.record.languages := by
  rw [h.mem]
  simp [hmet, hclear, hconflict]

/-- A language that was met and could be judged says nothing new. -/
theorem again (h : Found settings record languages p) (hmet : language ∈ languages)
    (hjudged : isUnjudged settings language = false) :
    Found settings record (languages ++ [language]) p := by
  have hmem (l : String) : (languages ++ [language]).contains l = languages.contains l := by
    by_cases hl : l = language
    · simp [hl, hmet]
    · simp [hl]
  have hdups : (languages ++ [language]).eraseDups = languages.eraseDups := by
    rw [eraseDups_concat, if_pos hmet]
  refine ⟨?_, ?_, ?_, ?_⟩
  · simpa only [hmem, hdups] using h.recorded
  · simpa only [hdups] using h.newConflicts
  · simpa only [hdups] using h.resolved
  · simpa [hjudged] using h.errored

/-- What is left of the record when a language that was not met is dropped from it if it is clear. -/
theorem recorded_dropped (h : Found settings record languages p) (hmet : language ∉ languages) :
    (if isClear settings language then p.record.languages.filter (· != language)
        else p.record.languages) =
      record.languages.filter
          (fun l => !((languages ++ [language]).contains l && isClear settings l)) ++
        languages.eraseDups.filter
          fun l => (conflict? settings l).isSome && !record.contains l := by
  have hkept : (fun l => !((languages ++ [language]).contains l && isClear settings l)) = fun l =>
      (if isClear settings language then l != language else true) &&
        !(languages.contains l && isClear settings l) := by
    funext l
    by_cases hl : l = language
    · cases hclear : isClear settings language <;> simp [hl, hclear, hmet]
    · simp [hl]
  rw [h.recorded, hkept]
  cases isClear settings language with
  | false => simp
  | true =>
    rw [if_pos rfl, List.filter_append, List.filter_filter, List.filter_filter]
    congr 1
    refine List.filter_congr fun l hl => ?_
    have hother : l ≠ language := fun heq => hmet (heq ▸ List.mem_eraseDups.1 hl)
    simp [hother]

/-- What a language that was not met adds to the findings. -/
theorem first (h : Found settings record languages p) (hmet : language ∉ languages) {q : Progress}
    (hrecorded : q.record.languages =
      (if isClear settings language then p.record.languages.filter (· != language)
        else p.record.languages) ++
        if (conflict? settings language).isSome && !record.contains language then [language]
        else [])
    (hnew : q.report.newConflicts = p.report.newConflicts ++
      if record.contains language then [] else (conflict? settings language).toList)
    (hresolved : q.report.resolved = p.report.resolved ++
      if isClear settings language && record.contains language then [language] else [])
    (herrored : q.report.errored = p.report.errored ++
      if isUnjudged settings language then [language] else []) :
    Found settings record (languages ++ [language]) q := by
  have hdups : (languages ++ [language]).eraseDups = languages.eraseDups ++ [language] := by
    rw [eraseDups_concat, if_neg hmet]
  have hone (keep : String → Bool) :
      [language].filter keep = if keep language then [language] else [] := by
    cases hkeep : keep language <;> simp [hkeep]
  refine ⟨?_, ?_, ?_, ?_⟩
  · rw [hrecorded, h.recorded_dropped hmet, hdups, List.filter_append, List.append_assoc, hone]
  · rw [hnew, h.newConflicts, hdups, List.filter_append, List.filterMap_append]
    by_cases hmem : record.contains language = true
    · simp [hmem]
    · cases hconflict : conflict? settings language <;> simp [hmem, hconflict]
  · rw [hresolved, h.resolved, hdups, List.filter_append, hone]
  · rw [herrored, h.errored, List.filter_append, hone]

/-- A language with a conflict is recorded if it was not. -/
theorem add (h : Found settings record languages p) {formatter : String}
    (hoffender : offender settings language = .ok (some formatter)) :
    Found settings record (languages ++ [language]) (p.add ⟨language, formatter⟩).value := by
  have hclear : isClear settings language = false := by simp [isClear, hoffender]
  have hconflict : conflict? settings language = some ⟨language, formatter⟩ := by
    simp [conflict?, hoffender]
  have hjudged : isUnjudged settings language = false := by simp [isUnjudged, hoffender]
  by_cases hmet : language ∈ languages
  · have hmem := h.mem_of_conflict hmet hclear (by simp [hconflict])
    simpa [Progress.add, Record.contains, hmem] using h.again hmet hjudged
  · have hknown := h.mem_of_not_met hmet
    by_cases hmem : language ∈ record.languages
    · rw [show (p.add ⟨language, formatter⟩).value = p by
        simp [Progress.add, Record.contains, hknown, hmem]]
      exact h.first hmet (by simp [hclear, Record.contains, hmem])
        (by simp [Record.contains, hmem]) (by simp [hclear]) (by simp [hjudged])
    · have hinsert : (p.record.insert language).languages = p.record.languages ++ [language] := by
        rw [Record.insert, dif_neg (mt hknown.1 hmem)]
      rw [show (p.add ⟨language, formatter⟩).value =
          { record := p.record.insert language
            report := { p.report with
              newConflicts := p.report.newConflicts ++ [⟨language, formatter⟩] } } by
        simp [Progress.add, Record.contains, hknown, hmem]]
      exact h.first hmet (by simp [hinsert, hclear, hconflict, Record.contains, hmem])
        (by simp [hconflict, Record.contains, hmem]) (by simp [hclear]) (by simp [hjudged])

/-- A language without a conflict is dropped if it was recorded. -/
theorem drop (h : Found settings record languages p)
    (hoffender : offender settings language = .ok none) :
    Found settings record (languages ++ [language]) (p.drop language).value := by
  have hclear : isClear settings language = true := by simp [isClear, hoffender]
  have hconflict : conflict? settings language = none := by simp [conflict?, hoffender]
  have hjudged : isUnjudged settings language = false := by simp [isUnjudged, hoffender]
  by_cases hmet : language ∈ languages
  · have hmem := h.not_mem_of_clear hmet hclear hconflict
    simpa [Progress.drop, Record.contains, hmem] using h.again hmet hjudged
  · have hknown := h.mem_of_not_met hmet
    by_cases hmem : language ∈ record.languages
    · rw [show (p.drop language).value =
          { record := p.record.erase language
            report := { p.report with resolved := p.report.resolved ++ [language] } } by
        simp [Progress.drop, Record.contains, hknown, hmem]]
      exact h.first hmet (by simp [Record.erase, hclear, hconflict])
        (by simp [hconflict]) (by simp [hclear, Record.contains, hmem]) (by simp [hjudged])
    · rw [show (p.drop language).value = p by
        simp [Progress.drop, Record.contains, hknown, hmem]]
      have hothers : p.record.languages.filter (· != language) = p.record.languages := by
        refine List.filter_eq_self.2 fun l hl => ?_
        have hother : l ≠ language := fun heq => hmem (hknown.1 (heq ▸ hl))
        simp [hother]
      exact h.first hmet (by simp [hclear, hothers, hconflict]) (by simp [hconflict])
        (by simp [Record.contains, hmem]) (by simp [hjudged])

/-- A language that cannot be judged stays recorded if it was. -/
theorem fail (h : Found settings record languages p) {cause : Settings.InvalidSetting}
    (hoffender : offender settings language = .error cause) :
    Found settings record (languages ++ [language]) (p.fail language cause).value := by
  have hclear : isClear settings language = false := by simp [isClear, hoffender]
  have hconflict : conflict? settings language = none := by simp [conflict?, hoffender]
  have hjudged : isUnjudged settings language = true := by simp [isUnjudged, hoffender]
  by_cases hmet : language ∈ languages
  · have hmem (l : String) : (languages ++ [language]).contains l = languages.contains l := by
      by_cases hl : l = language
      · simp [hl, hmet]
      · simp [hl]
    have hdups : (languages ++ [language]).eraseDups = languages.eraseDups := by
      rw [eraseDups_concat, if_pos hmet]
    refine ⟨?_, ?_, ?_, ?_⟩
    · simpa only [Progress.fail, hmem, hdups] using h.recorded
    · simpa only [Progress.fail, hdups] using h.newConflicts
    · simpa only [Progress.fail, hdups] using h.resolved
    · simp [Progress.fail, hjudged, h.errored]
  · exact h.first hmet (by simp [Progress.fail, hclear, hconflict])
      (by simp [Progress.fail, hconflict]) (by simp [Progress.fail, hclear])
      (by simp [Progress.fail, hjudged])

theorem check (h : Found settings record languages p) (language : String) :
    Found settings record (languages ++ [language]) (p.check settings language).value := by
  unfold Progress.check
  split
  · next hoffender => exact h.add hoffender
  · next hoffender => exact h.drop hoffender
  · next hoffender => exact h.fail hoffender

end Found

theorem found_foldl (settings : Settings) (record : Record) (languages : List String) :
    Found settings record languages
      (languages.foldl (fun p language => (p.check settings language).value) { record }) := by
  induction languages using List.reverseRecOn with
  | nil => exact found_nil settings record
  | append_singleton languages language ih =>
    rw [List.foldl_append]
    exact ih.check language

/-! ## Dropping what is not looked at -/

theorem foldl_drop (gone : List String) (p : Progress) (hgone : ∀ l ∈ gone, l ∈ p.record.languages)
    (hnodup : gone.Nodup) :
    (gone.foldl (fun p language => (p.drop language).value) p).record.languages =
        p.record.languages.filter (fun l => !gone.contains l) ∧
      (gone.foldl (fun p language => (p.drop language).value) p).report =
        { p.report with resolved := p.report.resolved ++ gone } := by
  induction gone generalizing p with
  | nil => simp [List.filter_eq_self.2]
  | cons language rest ih =>
    obtain ⟨hfirst, hrest⟩ := List.nodup_cons.1 hnodup
    have hdrop : (p.drop language).value =
        { record := p.record.erase language
          report := { p.report with resolved := p.report.resolved ++ [language] } } := by
      simp [Progress.drop, Record.contains, hgone language (List.mem_cons_self ..)]
    have hmem : ∀ l ∈ rest, l ∈ (p.record.erase language).languages := fun l hl =>
      Record.mem_erase.2 ⟨hgone l (List.mem_cons_of_mem _ hl), fun heq => hfirst (heq ▸ hl)⟩
    obtain ⟨hrecorded, hreport⟩ := ih (p.drop language).value (by rwa [hdrop]) hrest
    rw [List.foldl_cons]
    refine ⟨?_, ?_⟩
    · rw [hrecorded, hdrop]
      simp only [Record.erase, List.filter_filter]
      refine List.filter_congr fun l _ => ?_
      simp only [List.contains_cons, Bool.not_or, bne]
      exact Bool.and_comm _ _
    · rw [hreport, hdrop]
      simp

/-- What a scan of some languages leaves, the record before it being given. -/
structure Scanned (settings : Settings) (record : Record) (languages : List String)
    (p : Progress) : Prop where
  recorded : p.record.languages =
    record.languages.filter (fun l => languages.contains l && !isClear settings l) ++
      languages.eraseDups.filter fun l => (conflict? settings l).isSome && !record.contains l
  newConflicts : p.report.newConflicts =
    (languages.eraseDups.filter (!record.contains ·)).filterMap (conflict? settings)
  resolved : p.report.resolved =
    (languages.eraseDups.filter fun l => isClear settings l && record.contains l) ++
      record.languages.filter (!languages.contains ·)
  errored : p.report.errored = languages.filter (isUnjudged settings)

/-- A language that was recorded since was looked at. -/
theorem since_met (settings : Settings) (record : Record) (languages : List String) :
    ∀ l ∈ languages.eraseDups.filter
      (fun l => (conflict? settings l).isSome && !record.contains l), languages.contains l := by
  intro l hl
  simpa using (List.mem_filter.1 hl).1

/-- The recorded languages that were not looked at were recorded before. -/
theorem Found.unscanned (h : Found settings record languages p) :
    p.record.languages.filter (fun l => !languages.contains l) =
      record.languages.filter fun l => !languages.contains l := by
  have hnone : (languages.eraseDups.filter
        fun l => (conflict? settings l).isSome && !record.contains l).filter
        (fun l => !languages.contains l) = [] :=
    List.filter_eq_nil_iff.2 fun l hl => by simp only [since_met settings record languages l hl,
      Bool.not_true, Bool.false_eq_true, not_false_eq_true]
  rw [h.recorded, List.filter_append, hnone, List.append_nil, List.filter_filter]
  refine List.filter_congr fun l _ => ?_
  cases languages.contains l <;> rfl

theorem Found.scanned (h : Found settings record languages p) :
    Scanned settings record languages
      ((p.record.languages.filter fun l => !languages.contains l).foldl
        (fun p language => (p.drop language).value) p) := by
  obtain ⟨hrecord, hreport⟩ :=
    foldl_drop (p.record.languages.filter fun l => !languages.contains l) p
      (fun l hl => (List.mem_filter.1 hl).1) (p.record.nodup.sublist List.filter_sublist)
  have hsince := since_met settings record languages
  have hgone := h.unscanned
  have hkept : p.record.languages.filter
        (fun l => !(p.record.languages.filter fun l => !languages.contains l).contains l) =
      p.record.languages.filter fun l => languages.contains l := by
    refine List.filter_congr fun l hl => ?_
    by_cases hmet : l ∈ languages <;> simp [hl, hmet]
  refine ⟨?_, ?_, ?_, ?_⟩
  · rw [hrecord, hkept, h.recorded, List.filter_append, List.filter_filter,
      List.filter_eq_self.2 hsince]
    congr 1
    refine List.filter_congr fun l _ => ?_
    cases languages.contains l <;> rfl
  · rw [hreport]
    exact h.newConflicts
  · rw [hreport, hgone, ← h.resolved]
  · rw [hreport]
    exact h.errored

/-- **What a scan of some languages records and reports.**  The languages may be given more than
once. -/
theorem scanLanguages_scanned (settings : Settings) (record : Record) (languages : List String) :
    Scanned settings record languages (scanLanguages settings record languages).value := by
  simp only [scanLanguages, Noted.value_bind, value_foldlM]
  exact (found_foldl settings record languages).scanned

theorem Scanned.mem (h : Scanned settings record languages p) :
    language ∈ p.record.languages ↔
      language ∈ languages ∧ ((conflict? settings language).isSome = true ∨
        isUnjudged settings language = true ∧ language ∈ record.languages) := by
  rw [h.recorded]
  simp only [List.mem_append, List.mem_filter, List.mem_eraseDups, List.contains_iff_mem,
    Record.contains, Bool.and_eq_true, Bool.not_eq_true']
  rcases judged_cases settings language with ⟨h, h', h''⟩ | ⟨h, h', h''⟩ | ⟨h, h', h''⟩
  · simp [h, h', h'']
  · by_cases hmem : language ∈ record.languages <;> simp [h, h', h'', hmem]
  · simp [h, h', h'', and_comm]

/-! ## Scans -/

/-- Whether the settings want conflicts to be shown. -/
def warningsShown (settings : Settings) : Bool :=
  (settings.read decodeBool Settings.Key.showConflictWarnings none).toOption.join.getD true

/-- The languages that the settings list for scans. -/
def listed (settings : Settings) : List String :=
  (settings.read decodeStrings Settings.Key.languages none).toOption.join.getD []

theorem value_scannedLanguages (settings : Settings) :
    (scannedLanguages settings).value =
      if (listed settings).isEmpty then settings.languageIds else listed settings := by
  have hlisted : (settings.readOrWarn decodeStrings Settings.Key.languages none).value.getD [] =
      listed settings := by
    rw [Settings.value_readOrWarn, listed]
  rw [scannedLanguages, Noted.value_bind, hlisted]
  rfl

theorem value_scan (settings : Settings) (record : Record) :
    (scan settings record).value =
      if warningsShown settings then
        (scanLanguages settings record (scannedLanguages settings).value).value
      else { record := .empty } := by
  have hshown : (settings.readOrWarn decodeBool Settings.Key.showConflictWarnings none).value.getD
      true = warningsShown settings := by
    rw [Settings.value_readOrWarn, warningsShown]
  rw [scan, Noted.value_bind, hshown]
  cases warningsShown settings with
  | true => rfl
  | false =>
    rw [if_neg Bool.false_ne_true, if_neg Bool.false_ne_true]
    dsimp only
    split <;> rfl

/-- **The languages that are recorded after a scan** that shows conflicts: those it looks at that
have a conflict, or that cannot be judged and were recorded before. -/
theorem mem_scan : language ∈ (scan settings record).value.record.languages ↔
    warningsShown settings = true ∧ language ∈ (scannedLanguages settings).value ∧
      ((conflict? settings language).isSome = true ∨
        isUnjudged settings language = true ∧ language ∈ record.languages) := by
  rw [value_scan]
  cases hshown : warningsShown settings with
  | false => simp [Record.empty]
  | true =>
    rw [if_pos rfl,
      (scanLanguages_scanned settings record (scannedLanguages settings).value).mem]
    exact (and_iff_right rfl).symm

end FormatChain.Conflict
