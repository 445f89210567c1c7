import FormatChain.Proofs.Conflict.Rescanning
import FormatChain.Proofs.Conflict.Unnoticed
import FormatChain.Proofs.Session.Notifications
import FormatChain.Session.Application

/-!
# One scan after the other

Between two scans the settings may change in any way.  What a scan announces of a language is the
difference between the records before and after it, so the announcements about a language take
turns: a conflict, its end, a conflict, and so on.

* `Conflict.Conflicts`, `Conflict.IsUnreadable` : what a language is judged to be, by its settings.
* `Conflict.Announcement`, `Conflict.announcements` : what a scan announces, in order.
* `Conflict.messages_scan` : the messages that a scan sends are these announcements.
* `Conflict.announcedOver`, `Conflict.TakesTurns` : the announcements of scans, one after the other.
* `Conflict.scanConflicts_over_history` : scans record, report and announce transitions.
-/

namespace FormatChain.Conflict

open FormatChain.Json

/-! ## Announcements -/

/-- What a scan announces about a language. -/
inductive Announcement where
  /-- It is in conflict. -/
  | started (conflict : LanguageConflict)
  /-- Its conflict has ended. -/
  | ended (language : String)
  deriving Repr, DecidableEq

namespace Announcement

/-- The language that it is about. -/
def language : Announcement → String
  | started conflict => conflict.language
  | ended language => language

/-- How it is announced: a conflict is a warning. -/
def message : Announcement → NotificationKind × String
  | started conflict => (.warning, conflictMessage conflict)
  | ended language => (.info, resolvedMessage language)

/-- The conflict, if it is one. -/
def started? : Announcement → Option LanguageConflict
  | started conflict => some conflict
  | ended _ => none

/-- The language whose conflict has ended, if it is one. -/
def ended? : Announcement → Option String
  | started _ => none
  | ended language => some language

end Announcement

/-! ## The settings of a language -/

/-- The editor formats the language on save, with this formatter, which is not the program
itself. -/
structure Conflicts (settings : Settings) (language formatter : String) : Prop where
  named : settings.value? Settings.Key.defaultFormatter (some language) = some (.string formatter)
  unreserved : isReservedId formatter = false
  onSave : settings.value? Settings.Key.formatOnSave (some language) = some (.bool true)

/-- One of the settings by which the language is judged has a value of a wrong type: the formatter,
or whether to format on save if there is a formatter that is not the program itself. -/
inductive IsUnreadable (settings : Settings) (language : String) : Prop
  | formatter {value : Value}
      (hvalue : settings.value? Settings.Key.defaultFormatter (some language) = some value)
      (htype : ∀ text, value ≠ .string text)
  | onSave {formatter : String} {value : Value}
      (hformatter : settings.value? Settings.Key.defaultFormatter (some language) =
        some (.string formatter))
      (hunreserved : isReservedId formatter = false)
      (hvalue : settings.value? Settings.Key.formatOnSave (some language) = some value)
      (htype : ∀ b, value ≠ .bool b)

variable {settings : Settings} {record : Record} {language : String} {languages : List String}
  {p : Progress}

theorem read_string_eq (settings : Settings) (key : String) (language : Option String) :
    (settings.read decodeString key language).toOption =
      match settings.value? key language with
      | none => some none
      | some (.string text) => some (some text)
      | some _ => none := by
  rw [Settings.read]
  rcases settings.value? key language with _ | (_ | _ | _ | _ | _ | _) <;> rfl

theorem read_bool_eq (settings : Settings) (key : String) (language : Option String) :
    (settings.read decodeBool key language).toOption =
      match settings.value? key language with
      | none => some none
      | some (.bool b) => some (some b)
      | some _ => none := by
  rw [Settings.read]
  rcases settings.value? key language with _ | (_ | _ | _ | _ | _ | _) <;> rfl

/-- What a scan makes of the two settings. -/
theorem toOption_offender_eq (settings : Settings) (language : String) :
    (offender settings language).toOption =
      match settings.value? Settings.Key.defaultFormatter (some language) with
      | none => some none
      | some (.string formatter) =>
        if isReservedId formatter then some none
        else
          match settings.value? Settings.Key.formatOnSave (some language) with
          | none => some none
          | some (.bool onSave) => some (if onSave then some formatter else none)
          | some _ => none
      | some _ => none := by
  rw [toOption_offender, read_string_eq, read_bool_eq]
  rcases settings.value? Settings.Key.defaultFormatter (some language) with
    _ | (_ | _ | _ | formatter | _ | _)
  · rfl
  · rfl
  · rfl
  · rfl
  · dsimp only [Option.bind_some, Option.elim_some]
    split
    · rfl
    · rcases settings.value? Settings.Key.formatOnSave (some language) with
        _ | (_ | _ | _ | _ | _ | _) <;> rfl
  · rfl
  · rfl

theorem conflict?_eq_some_iff {conflict : LanguageConflict} :
    conflict? settings language = some conflict ↔
      conflict.language = language ∧ Conflicts settings language conflict.formatter := by
  obtain ⟨conflicting, formatter⟩ := conflict
  rw [conflict?_eq, toOption_offender_eq]
  constructor
  · intro h
    split at h
    · exact absurd h (by simp)
    · next named hnamed =>
      split at h
      · exact absurd h (by simp)
      · next hreserved =>
        split at h
        · exact absurd h (by simp)
        · next onSave honSave =>
          cases onSave with
          | false => exact absurd h (by simp)
          | true =>
            obtain ⟨rfl, rfl⟩ : language = conflicting ∧ named = formatter := by simpa using h
            exact ⟨rfl, hnamed, by simpa using hreserved, honSave⟩
        · exact absurd h (by simp)
    · exact absurd h (by simp)
  · rintro ⟨rfl, hnamed, hunreserved, honSave⟩
    simp [hnamed, hunreserved, honSave]

theorem isUnjudged_iff : isUnjudged settings language = true ↔ IsUnreadable settings language := by
  rw [isUnjudged_eq, toOption_offender_eq]
  constructor
  · intro h
    split at h
    · exact absurd h (by simp)
    · next named hnamed =>
      split at h
      · exact absurd h (by simp)
      · next hreserved =>
        split at h
        · exact absurd h (by simp)
        · exact absurd h (by simp)
        · next htype hvalue => exact .onSave hnamed (by simpa using hreserved) hvalue htype
    · next htype hvalue => exact .formatter hvalue htype
  · rintro (@⟨value, hvalue, htype⟩ | @⟨formatter, value, hnamed, hunreserved, hvalue, htype⟩)
    · cases value with
      | string text => exact absurd rfl (htype text)
      | null | bool _ | number _ | array _ | object _ => simp [hvalue]
    · cases value with
      | bool b => exact absurd rfl (htype b)
      | null | number _ | string _ | array _ | object _ => simp [hnamed, hunreserved, hvalue]

/-! ## What a scan announces -/

/-- What is announced of a language that a scan looks at. -/
def transition? (settings : Settings) (record : Record) (language : String) :
    Option Announcement :=
  if record.contains language then
    if isClear settings language then some (.ended language) else none
  else (conflict? settings language).map .started

/-- What a scan announces, in order. -/
def announcements (settings : Settings) (record : Record) : List Announcement :=
  if warningsShown settings then
    let languages := (scannedLanguages settings).value
    languages.eraseDups.filterMap (transition? settings record) ++
      (record.languages.filter (!languages.contains ·)).map .ended
  else []

theorem messages_add (p : Progress) (conflict : LanguageConflict) :
    (p.add conflict).messages =
      if conflict.language ∈ p.record.languages then []
      else [(Announcement.started conflict).message] := by
  simp only [Progress.add, Record.contains, List.contains_iff_mem]
  split <;> rfl

theorem messages_drop (p : Progress) (language : String) :
    (p.drop language).messages =
      if language ∈ p.record.languages then [(Announcement.ended language).message] else [] := by
  simp only [Progress.drop, Record.contains, List.contains_iff_mem]
  split <;> rfl

theorem messages_fail (p : Progress) (language : String) (cause : Settings.InvalidSetting) :
    (p.fail language cause).messages = [] := rfl

/-- A language is announced when it is met for the first time. -/
theorem Found.messages_check (h : Found settings record languages p) (language : String) :
    (p.check settings language).messages =
      (if language ∈ languages then none else transition? settings record language).toList.map
        Announcement.message := by
  by_cases hmet : language ∈ languages
  · -- A language that was met before is recorded if it conflicts, and is not if it is clear.
    rw [if_pos hmet]
    unfold Progress.check
    split
    · next formatter hoffender =>
      rw [messages_add, if_pos (h.mem_of_conflict hmet (by simp [isClear, hoffender])
        (by simp [conflict?, hoffender]))]
      rfl
    · next hoffender =>
      rw [messages_drop, if_neg (h.not_mem_of_clear hmet (by simp [isClear, hoffender])
        (by simp [conflict?, hoffender]))]
      rfl
    · rfl
  · rw [if_neg hmet]
    have hmem := h.mem_of_not_met hmet
    unfold Progress.check
    split
    · next formatter hoffender =>
      rw [messages_add]
      by_cases hrecorded : language ∈ record.languages <;>
        simp [hmem, hrecorded, transition?, Record.contains, isClear, conflict?, hoffender]
    · next hoffender =>
      rw [messages_drop]
      by_cases hrecorded : language ∈ record.languages <;>
        simp [hmem, hrecorded, transition?, Record.contains, isClear, conflict?, hoffender]
    · next cause hoffender =>
      simp [messages_fail, transition?, isClear, conflict?, hoffender]

/-- The messages about the languages that a scan looks at. -/
theorem messages_foldlM_check (settings : Settings) (record : Record) (languages : List String) :
    (languages.foldlM (Progress.check settings) { record }).messages =
      (languages.eraseDups.filterMap (transition? settings record)).map Announcement.message := by
  induction languages using List.reverseRecOn with
  | nil => rfl
  | append_singleton languages language ih =>
    have hcheck := (found_foldl settings record languages).messages_check language
    rw [List.foldlM_append, Noted.messages_bind, ih, value_foldlM, List.foldlM_cons,
      Noted.messages_bind, List.foldlM_nil, Noted.messages_pure, List.append_nil, hcheck,
      eraseDups_concat]
    split
    · simp
    · rw [List.filterMap_append, List.map_append, List.filterMap_cons, List.filterMap_nil]
      cases transition? settings record language <;> rfl

/-- The messages about the languages that a scan does not look at any more. -/
theorem messages_foldlM_drop (gone : List String) (p : Progress)
    (hgone : ∀ l ∈ gone, l ∈ p.record.languages) (hnodup : gone.Nodup) :
    (gone.foldlM Progress.drop p).messages =
      (gone.map Announcement.ended).map Announcement.message := by
  induction gone generalizing p with
  | nil => rfl
  | cons language rest ih =>
    obtain ⟨hfirst, hrest⟩ := List.nodup_cons.1 hnodup
    have hmem : language ∈ p.record.languages := hgone language List.mem_cons_self
    have hdropped : (p.drop language).value.record = p.record.erase language := by
      simp [Progress.drop, Record.contains, hmem]
    rw [List.foldlM_cons, Noted.messages_bind, messages_drop, if_pos hmem, ih _ ?_ hrest]
    · rfl
    · rw [hdropped]
      exact fun l hl => Record.mem_erase.2
        ⟨hgone l (List.mem_cons_of_mem _ hl), fun heq => hfirst (heq ▸ hl)⟩

theorem messages_scanLanguages (settings : Settings) (record : Record) (languages : List String) :
    (scanLanguages settings record languages).messages =
      (languages.eraseDups.filterMap (transition? settings record) ++
        (record.languages.filter (!languages.contains ·)).map Announcement.ended).map
          Announcement.message := by
  have hfound := found_foldl settings record languages
  rw [← value_foldlM] at hfound
  rw [scanLanguages, Noted.messages_bind, Noted.messages_bind, messages_foldlM_check,
    messages_foldlM_drop _ _ (fun l hl => (List.mem_filter.1 hl).1)
      ((Record.nodup _).sublist List.filter_sublist), hfound.unscanned, List.map_append]
  rfl

/-- **The messages that a scan sends are its announcements.** -/
theorem messages_scan (settings : Settings) (record : Record) :
    (scan settings record).messages =
      (announcements settings record).map Announcement.message := by
  have hshown : (settings.readOrWarn decodeBool Settings.Key.showConflictWarnings none).value.getD
      true = warningsShown settings := by
    rw [Settings.value_readOrWarn, warningsShown]
  have hlanguages : (scannedLanguages settings).messages = [] := by
    rw [scannedLanguages, Noted.messages_bind, Settings.messages_readOrWarn]
    rfl
  rw [scan, Noted.messages_bind, hshown, Settings.messages_readOrWarn, List.nil_append,
    announcements]
  cases warningsShown settings with
  | true =>
    rw [if_pos rfl, if_pos rfl, Noted.messages_bind, hlanguages, List.nil_append]
    exact messages_scanLanguages ..
  | false =>
    rw [if_neg Bool.false_ne_true, if_neg Bool.false_ne_true]
    dsimp only
    split <;> rfl

/-- The conflicts that a scan announces are those that it reports as new. -/
theorem filterMap_started? (settings : Settings) (record : Record) :
    (announcements settings record).filterMap Announcement.started? =
      (scan settings record).value.report.newConflicts := by
  rw [value_scan, announcements]
  cases warningsShown settings with
  | false => rfl
  | true =>
    have hscanned := scanLanguages_scanned settings record (scannedLanguages settings).value
    have hnone : Announcement.started? ∘ Announcement.ended = fun _ => none := rfl
    rw [if_pos rfl, if_pos rfl, hscanned.newConflicts, List.filterMap_append, List.filterMap_map,
      hnone, List.filterMap_eq_nil_iff.2 fun _ _ => rfl, List.append_nil, List.filterMap_filterMap,
      List.filterMap_filter]
    congr 1
    funext l
    rw [transition?]
    cases record.contains l with
    | true => cases isClear settings l <;> rfl
    | false => cases conflict? settings l <;> rfl

theorem filterMap_ended? (settings : Settings) (record : Record) :
    (announcements settings record).filterMap Announcement.ended? =
      (scan settings record).value.report.resolved := by
  rw [value_scan, announcements]
  cases warningsShown settings with
  | false => rfl
  | true =>
    have hscanned := scanLanguages_scanned settings record (scannedLanguages settings).value
    have hsome : Announcement.ended? ∘ Announcement.ended = some := rfl
    rw [if_pos rfl, if_pos rfl, hscanned.resolved, List.filterMap_append, List.filterMap_map, hsome,
      List.filterMap_some, List.filterMap_filterMap]
    congr 1
    rw [← List.filterMap_eq_filter]
    congr 1
    funext l
    rw [transition?, Option.guard]
    cases record.contains l with
    | true => cases isClear settings l <;> rfl
    | false => rw [Bool.and_false]; cases conflict? settings l <;> rfl

/-! ## Transitions of the record -/

/-- What a scan makes of the record, by the settings of each language. -/
theorem mem_scan_of_shown (hshown : warningsShown settings = true) :
    language ∈ (scan settings record).value.record.languages ↔
      language ∈ (scannedLanguages settings).value ∧
        ((∃ formatter, Conflicts settings language formatter) ∨
          IsUnreadable settings language ∧ language ∈ record.languages) := by
  have hconflict : (conflict? settings language).isSome = true ↔
      ∃ formatter, Conflicts settings language formatter := by
    rw [Option.isSome_iff_exists]
    constructor
    · rintro ⟨conflict, h⟩
      exact ⟨_, (conflict?_eq_some_iff.1 h).2⟩
    · rintro ⟨formatter, h⟩
      exact ⟨⟨language, formatter⟩, conflict?_eq_some_iff.2 ⟨rfl, h⟩⟩
  rw [mem_scan, hconflict, isUnjudged_iff]
  exact and_iff_right hshown

/-- A language is reported as a new conflict if it is recorded now and was not before. -/
theorem mem_newConflicts_iff {conflict : LanguageConflict} :
    conflict ∈ (scan settings record).value.report.newConflicts ↔
      conflict.language ∈ (scan settings record).value.record.languages ∧
        conflict.language ∉ record.languages ∧
        Conflicts settings conflict.language conflict.formatter := by
  rw [mem_scan, value_scan]
  cases warningsShown settings with
  | false => simp
  | true =>
    rw [if_pos rfl, (scanLanguages_scanned settings record _).newConflicts]
    simp only [List.mem_filterMap, List.mem_filter, List.mem_eraseDups, conflict?_eq_some_iff,
      Record.contains, Bool.not_eq_true', List.contains_eq_mem, decide_eq_false_iff_not]
    constructor
    · rintro ⟨language, ⟨hmet, hnew⟩, rfl, hconflict⟩
      have hsome := conflict?_eq_some_iff.2 ⟨rfl, hconflict⟩
      exact ⟨⟨trivial, hmet, .inl (by rw [hsome]; rfl)⟩, hnew, hconflict⟩
    · rintro ⟨⟨-, hmet, -⟩, hnew, hconflict⟩
      exact ⟨conflict.language, ⟨hmet, hnew⟩, rfl, hconflict⟩

/-- A language is reported as resolved if it was recorded before and is not now. -/
theorem mem_resolved_iff (hshown : warningsShown settings = true) :
    language ∈ (scan settings record).value.report.resolved ↔
      language ∈ record.languages ∧
        language ∉ (scan settings record).value.record.languages := by
  rw [mem_scan, value_scan, hshown, if_pos rfl, (scanLanguages_scanned settings record _).resolved]
  simp only [List.mem_append, List.mem_filter, List.mem_eraseDups, Record.contains,
    Bool.and_eq_true, Bool.not_eq_true', List.contains_eq_mem,
    decide_eq_false_iff_not]
  rcases judged_cases settings language with ⟨h, h', h''⟩ | ⟨h, h', h''⟩ | ⟨h, h', h''⟩
  · by_cases hmet : language ∈ (scannedLanguages settings).value <;> simp [h, h', h'', hmet]
  · by_cases hmet : language ∈ (scannedLanguages settings).value <;> simp [h, h', hmet]
  · by_cases hmet : language ∈ (scannedLanguages settings).value <;> simp [h, h', h'', hmet]

theorem language_of_transition? {a : Announcement}
    (h : transition? settings record language = some a) : a.language = language := by
  rw [transition?] at h
  split at h
  · split at h
    · obtain rfl := Option.some.inj h
      rfl
    · exact absurd h (by simp)
  · obtain ⟨conflict, hconflict, rfl⟩ := Option.map_eq_some_iff.1 h
    exact (conflict?_eq_some_iff.1 hconflict).1

/-- Each language is announced once at most. -/
theorem nodup_announcements (settings : Settings) (record : Record) :
    ((announcements settings record).map Announcement.language).Nodup := by
  rw [announcements]
  cases warningsShown settings with
  | false => exact List.nodup_nil
  | true =>
    have hlanguages : ∀ languages : List String,
        (languages.filterMap (transition? settings record)).map Announcement.language =
          languages.filter fun l => (transition? settings record l).isSome := by
      intro languages
      induction languages with
      | nil => rfl
      | cons l rest ih =>
        cases h : transition? settings record l with
        | none => simp [h, ih]
        | some a => simp [h, ih, language_of_transition? h]
    have hself : Announcement.language ∘ Announcement.ended = id := rfl
    rw [if_pos rfl, List.map_append, hlanguages, List.map_map, hself, List.map_id]
    exact nodup_met_and_unmet _ record _

/-! ## Taking turns -/

/-- How the announcements about a language are sent, in order. -/
def kindsAbout (language : String) (said : List Announcement) : List NotificationKind :=
  (said.filter (·.language == language)).map (·.message.1)

/-- Warnings and informations take turns.  A warning comes first if there is no conflict to begin
with. -/
def TakesTurns : Bool → List NotificationKind → Prop
  | _, [] => True
  | inConflict, kind :: rest =>
    kind = (if inConflict then .info else .warning) ∧ TakesTurns (!inConflict) rest

/-- What scans announce, one after the other, the settings of each being given. -/
def announcedOver : List Settings → Record → List Announcement
  | [], _ => []
  | settings :: later, record =>
    announcements settings record ++ announcedOver later (scan settings record).value.record

theorem kindsAbout_append (language : String) (said later : List Announcement) :
    kindsAbout language (said ++ later) =
      kindsAbout language said ++ kindsAbout language later := by
  rw [kindsAbout, List.filter_append, List.map_append]
  rfl

theorem kindsAbout_of_mem {said : List Announcement} {a : Announcement}
    (hnodup : (said.map Announcement.language).Nodup) (hmem : a ∈ said) :
    kindsAbout a.language said = [a.message.1] := by
  induction said with
  | nil => exact absurd hmem List.not_mem_nil
  | cons first rest ih =>
    obtain ⟨hfirst, hrest⟩ := List.nodup_cons.1 hnodup
    rcases List.mem_cons.1 hmem with rfl | hmem
    · have hothers : rest.filter (·.language == a.language) = [] :=
        List.filter_eq_nil_iff.2 fun b hb heq =>
          hfirst (eq_of_beq heq ▸ List.mem_map_of_mem hb)
      simp [kindsAbout, hothers]
    · have hother : first.language ≠ a.language := fun heq =>
        hfirst (heq ▸ List.mem_map_of_mem hmem)
      simpa [kindsAbout, hother] using ih hrest hmem

theorem kindsAbout_eq_nil {said : List Announcement} (h : ∀ a ∈ said, a.language ≠ language) :
    kindsAbout language said = [] := by
  rw [kindsAbout, List.filter_eq_nil_iff.2 fun a ha heq => h a ha (eq_of_beq heq)]
  rfl

theorem started_mem_iff {conflict : LanguageConflict} :
    .started conflict ∈ announcements settings record ↔
      conflict ∈ (scan settings record).value.report.newConflicts := by
  rw [← filterMap_started?, List.mem_filterMap]
  constructor
  · exact fun h => ⟨_, h, rfl⟩
  · rintro ⟨_ | _, h, heq⟩
    · exact Option.some.inj heq ▸ h
    · exact absurd heq (by simp [Announcement.started?])

theorem ended_mem_iff :
    .ended language ∈ announcements settings record ↔
      language ∈ (scan settings record).value.report.resolved := by
  rw [← filterMap_ended?, List.mem_filterMap]
  constructor
  · exact fun h => ⟨_, h, rfl⟩
  · rintro ⟨_ | _, h, heq⟩
    · exact absurd heq (by simp [Announcement.ended?])
    · exact Option.some.inj heq ▸ h

/-- A language that is announced came into the record, or left it. -/
theorem changed_of_announced (hshown : warningsShown settings = true) {a : Announcement}
    (ha : a ∈ announcements settings record) :
    a.language ∈ record.languages ↔
      a.language ∉ (scan settings record).value.record.languages := by
  cases a with
  | started conflict =>
    obtain ⟨hafter, hbefore, -⟩ := mem_newConflicts_iff.1 (started_mem_iff.1 ha)
    exact iff_of_false hbefore fun h => h hafter
  | ended language =>
    obtain ⟨hbefore, hafter⟩ := (mem_resolved_iff hshown).1 (ended_mem_iff.1 ha)
    exact iff_of_true hbefore hafter

/-- **What a scan announces of a language** is that it came into the record, or left it. -/
theorem kindsAbout_announcements (hshown : warningsShown settings = true) (language : String) :
    kindsAbout language (announcements settings record) =
      if language ∈ record.languages then
        if language ∈ (scan settings record).value.record.languages then [] else [.info]
      else if language ∈ (scan settings record).value.record.languages then [.warning]
      else [] := by
  have hnodup := nodup_announcements settings record
  have hsame : (language ∈ record.languages ↔
      language ∈ (scan settings record).value.record.languages) →
        kindsAbout language (announcements settings record) = [] := by
    intro hsame
    refine kindsAbout_eq_nil fun a ha heq => ?_
    have hchanged := changed_of_announced hshown ha
    rw [heq, hsame] at hchanged
    exact iff_not_self hchanged
  by_cases hbefore : language ∈ record.languages
  · by_cases hafter : language ∈ (scan settings record).value.record.languages
    · rw [if_pos hbefore, if_pos hafter]
      exact hsame (iff_of_true hbefore hafter)
    · rw [if_pos hbefore, if_neg hafter]
      exact kindsAbout_of_mem hnodup
        (ended_mem_iff.2 ((mem_resolved_iff hshown).2 ⟨hbefore, hafter⟩))
  · by_cases hafter : language ∈ (scan settings record).value.record.languages
    · rw [if_neg hbefore, if_pos hafter]
      obtain ⟨formatter, hconflict⟩ := ((mem_scan_of_shown hshown).1 hafter).2.resolve_right
        fun h => hbefore h.2
      exact kindsAbout_of_mem (a := .started ⟨language, formatter⟩) hnodup
        (started_mem_iff.2 (mem_newConflicts_iff.2 ⟨hafter, hbefore, hconflict⟩))
    · rw [if_neg hbefore, if_neg hafter]
      exact hsame (iff_of_false hbefore hafter)

/-- **The announcements about a language take turns**, as long as conflicts are shown. -/
theorem takesTurns_announcedOver {later : List Settings} (record : Record)
    (hshown : ∀ settings ∈ later, warningsShown settings = true) (language : String) :
    TakesTurns (record.contains language) (kindsAbout language (announcedOver later record)) := by
  induction later generalizing record with
  | nil => trivial
  | cons settings later ih =>
    have hturns := ih (scan settings record).value.record
      fun s hs => hshown s (List.mem_cons_of_mem _ hs)
    rw [announcedOver, kindsAbout_append,
      kindsAbout_announcements (hshown settings List.mem_cons_self)]
    by_cases hbefore : language ∈ record.languages <;>
      by_cases hafter : language ∈ (scan settings record).value.record.languages <;>
        simpa [Record.contains, hbefore, hafter, TakesTurns] using hturns

/-! ## Scanning twice -/

/-- A second scan records the same languages, in the same order. -/
theorem record_scan_again (settings : Settings) (record : Record) :
    (scan settings (scan settings record).value.record).value.record =
      (scan settings record).value.record := by
  have hmem {l : String} : l ∈ (scan settings record).value.record.languages ↔
      warningsShown settings = true ∧ l ∈ (scannedLanguages settings).value ∧
        ((conflict? settings l).isSome = true ∨
          isUnjudged settings l = true ∧ l ∈ record.languages) := mem_scan
  rw [value_scan settings (scan settings record).value.record]
  cases hshown : warningsShown settings with
  | false => rw [value_scan, hshown, if_neg Bool.false_ne_true, if_neg Bool.false_ne_true]
  | true =>
    rw [hshown] at hmem
    generalize (scan settings record).value.record = after at hmem ⊢
    rw [if_pos rfl]
    refine Record.ext_languages ?_
    -- All that is recorded was looked at and is not clear, and nothing comes into the record.
    rw [(scanLanguages_scanned settings after _).recorded, List.filter_eq_self.2 fun l hl => ?_,
      List.filter_eq_nil_iff.2 fun l hl => ?_, List.append_nil]
    · have hmet := List.mem_eraseDups.1 hl
      cases hconflict : (conflict? settings l).isSome with
      | false => simp
      | true => simpa [Record.contains] using hmem.2 ⟨rfl, hmet, .inl hconflict⟩
    · obtain ⟨-, hmet, hjudged⟩ := hmem.1 hl
      have hclear : isClear settings l = false := by
        rcases judged_cases settings l with ⟨-, h, h'⟩ | ⟨h, -, -⟩ | ⟨h, -, -⟩
        · simp [h, h'] at hjudged
        · exact h
        · exact h
      simp [hmet, hclear]

/-- **A second scan of the same settings** announces nothing. -/
theorem announcements_again (settings : Settings) (record : Record) :
    announcements settings (scan settings record).value.record = [] := by
  cases hshown : warningsShown settings with
  | false => rw [announcements, hshown, if_neg Bool.false_ne_true]
  | true =>
    refine List.eq_nil_iff_forall_not_mem.2 fun a ha => ?_
    have hchanged := changed_of_announced hshown ha
    rw [record_scan_again] at hchanged
    exact iff_not_self hchanged

/-- The languages that a scan reports as not judged, whatever was recorded before. -/
theorem errored_scan (settings : Settings) (record : Record) :
    (scan settings record).value.report.errored =
      if warningsShown settings then
        (scannedLanguages settings).value.filter (isUnjudged settings)
      else [] := by
  rw [value_scan]
  cases warningsShown settings with
  | false => rfl
  | true => exact (scanLanguages_scanned settings record _).errored

/-- A second scan of the same settings reports again the languages that cannot be judged, and
nothing else. -/
theorem report_scan_again (settings : Settings) (record : Record) :
    (scan settings (scan settings record).value.record).value.report =
      { errored := (scan settings record).value.report.errored } := by
  have hnew := filterMap_started? settings (scan settings record).value.record
  have hresolved := filterMap_ended? settings (scan settings record).value.record
  have herrored := errored_scan settings (scan settings record).value.record
  rw [announcements_again] at hnew hresolved
  rw [← errored_scan settings record] at herrored
  generalize (scan settings (scan settings record).value.record).value.report = report at *
  obtain ⟨newConflicts, resolved, errored⟩ := report
  subst hnew hresolved herrored
  rfl

/-! ## Applications that scan -/

/-- Scans of changing settings, one after the other. -/
def scans (history : List Settings) : Action (List ScanReport) :=
  history.mapM Application.scanConflicts

theorem scanConflicts_spec (settings : Settings) (s : Session) :
    let scanned := scan settings s.app.conflicted
    (Application.scanConflicts settings s).1 = scanned.value.report ∧
      (Application.scanConflicts settings s).2.app.conflicted = scanned.value.record ∧
      (Application.scanConflicts settings s).2.notifications =
        s.notifications ++ (announcements settings s.app.conflicted).map Announcement.message := by
  have htold := Action.notifies_tell (scan settings s.app.conflicted) s
  rw [messages_scan] at htold
  refine ⟨rfl, rfl, htold⟩

theorem notifications_scans (later : List Settings) (s : Session) :
    (scans later s).2.notifications =
      s.notifications ++ (announcedOver later s.app.conflicted).map Announcement.message := by
  induction later generalizing s with
  | nil => simp [scans, announcedOver]
  | cons settings later ih =>
    obtain ⟨-, hrecord, hnotified⟩ := scanConflicts_spec settings s
    have hlater := ih (Application.scanConflicts settings s).2
    rw [hrecord, hnotified] at hlater
    rw [scans, List.mapM_cons, announcedOver, List.map_append, ← List.append_assoc]
    exact hlater

/-- The languages of some announcements are among those of all, in the same order. -/
theorem sublist_language {α : Type} {f : Announcement → Option α} {g : α → String}
    (h : ∀ a b, f a = some b → g b = a.language) (said : List Announcement) :
    ((said.filterMap f).map g).Sublist (said.map Announcement.language) := by
  induction said with
  | nil => exact List.Sublist.slnil
  | cons a rest ih =>
    cases hfirst : f a with
    | none =>
      rw [List.filterMap_cons_none hfirst]
      exact ih.cons _
    | some b =>
      rw [List.filterMap_cons_some hfirst, List.map_cons, List.map_cons, h a b hfirst]
      exact ih.cons_cons _

/-- A scan reports no language twice, as a new conflict or as one that has ended. -/
theorem nodup_report (hshown : warningsShown settings = true) (record : Record) :
    ((scan settings record).value.report.newConflicts.map LanguageConflict.language ++
      (scan settings record).value.report.resolved).Nodup := by
  have hnodup := nodup_announcements settings record
  have hstarted := sublist_language (f := Announcement.started?) (g := LanguageConflict.language)
    (by rintro (_ | _) _ h <;> cases h; rfl) (announcements settings record)
  have hended := sublist_language (f := Announcement.ended?) (g := id)
    (by rintro (_ | _) _ h <;> cases h; rfl) (announcements settings record)
  rw [filterMap_started?] at hstarted
  rw [filterMap_ended?, List.map_id] at hended
  refine List.nodup_append.2 ⟨hnodup.sublist hstarted, hnodup.sublist hended, ?_⟩
  rintro _ hnew language hresolved rfl
  obtain ⟨conflict, hconflict, rfl⟩ := List.mem_map.1 hnew
  exact ((mem_resolved_iff hshown).1 hresolved).2 (mem_newConflicts_iff.1 hconflict).1

/-- The new conflicts are of the languages that came into the record. -/
theorem mem_languages_newConflicts_iff (hshown : warningsShown settings = true) :
    language ∈ (scan settings record).value.report.newConflicts.map LanguageConflict.language ↔
      language ∈ (scan settings record).value.record.languages ∧ language ∉ record.languages := by
  constructor
  · intro h
    obtain ⟨conflict, hconflict, rfl⟩ := List.mem_map.1 h
    obtain ⟨hafter, hbefore, -⟩ := mem_newConflicts_iff.1 hconflict
    exact ⟨hafter, hbefore⟩
  · rintro ⟨hafter, hbefore⟩
    obtain ⟨formatter, hconflict⟩ := ((mem_scan_of_shown hshown).1 hafter).2.resolve_right
      fun h => hbefore h.2
    exact List.mem_map.2
      ⟨⟨language, formatter⟩, mem_newConflicts_iff.2 ⟨hafter, hbefore, hconflict⟩, rfl⟩

/-- **Scans tell transitions.**  Take any session, and with it any record that the scans before have
left.  After a scan that shows conflicts a language is recorded if it was looked at, and the editor
formats it on save with a formatter of its own, or it cannot be judged and was recorded before.  The
new conflicts are the languages that came into the record, and the resolved ones those that left it,
each once.  A scan that does not show conflicts empties the record, and reports nothing.  In both
cases the messages that are sent are a warning for each new conflict, and an information for each
resolved language.

So as long as conflicts are shown, whatever becomes of the settings, the messages about a language
take turns, beginning with a warning if it is not recorded.  A second scan of the same settings has
no new conflict and resolves none, sends no message and leaves the record as it is; but it lists
again the languages that cannot be judged. -/
theorem scanConflicts_over_history (s : Session) (settings : Settings) (later : List Settings) :
    let record := s.app.conflicted
    let scanned := Application.scanConflicts settings s
    let after := scanned.2.app.conflicted
    let said := announcements settings record
    let again := Application.scanConflicts settings scanned.2
    (warningsShown settings = true →
      (∀ language, language ∈ after.languages ↔ language ∈ (scannedLanguages settings).value ∧
        ((∃ formatter, Conflicts settings language formatter) ∨
          IsUnreadable settings language ∧ language ∈ record.languages)) ∧
      (∀ language, language ∈ scanned.1.newConflicts.map LanguageConflict.language ↔
        language ∈ after.languages ∧ language ∉ record.languages) ∧
      (∀ conflict ∈ scanned.1.newConflicts,
        Conflicts settings conflict.language conflict.formatter) ∧
      (∀ language, language ∈ scanned.1.resolved ↔
        language ∈ record.languages ∧ language ∉ after.languages) ∧
      (scanned.1.newConflicts.map LanguageConflict.language ++ scanned.1.resolved).Nodup) ∧
    (warningsShown settings = false → after = .empty ∧ scanned.1 = {} ∧ said = []) ∧
    scanned.2.notifications = s.notifications ++ said.map Announcement.message ∧
    said.filterMap Announcement.started? = scanned.1.newConflicts ∧
    said.filterMap Announcement.ended? = scanned.1.resolved ∧
    (scans later s).2.notifications =
      s.notifications ++ (announcedOver later record).map Announcement.message ∧
    ((∀ new ∈ later, warningsShown new = true) → ∀ language,
      TakesTurns (record.contains language) (kindsAbout language (announcedOver later record))) ∧
    again.1 = { errored := scanned.1.errored } ∧ again.2.app.conflicted = after ∧
    again.2.notifications = scanned.2.notifications ∧
    ∀ language ∈ scanned.1.errored, IsUnreadable settings language := by
  intro record scanned after said again
  obtain ⟨hreport, hafter, hsent⟩ := scanConflicts_spec settings s
  obtain ⟨hreport', hafter', hsent'⟩ := scanConflicts_spec settings scanned.2
  change scanned.1 = (scan settings record).value.report at hreport
  change after = (scan settings record).value.record at hafter
  rw [show scanned.2.app.conflicted = (scan settings record).value.record from hafter]
    at hreport' hafter' hsent'
  rw [announcements_again, List.map_nil, List.append_nil] at hsent'
  rw [hreport, hafter]
  refine ⟨fun hshown => ⟨fun _ => mem_scan_of_shown hshown,
    fun _ => mem_languages_newConflicts_iff hshown,
    fun _ h => (mem_newConflicts_iff.1 h).2.2, fun _ => mem_resolved_iff hshown,
    nodup_report hshown record⟩, fun hdark => ?_, hsent, filterMap_started? settings record,
    filterMap_ended? settings record, notifications_scans later s,
    fun hshown => takesTurns_announcedOver record hshown, hreport'.trans ?_, hafter'.trans ?_,
    hsent', fun language h => ?_⟩
  · rw [value_scan, hdark, if_neg Bool.false_ne_true]
    refine ⟨rfl, rfl, ?_⟩
    rw [show said = announcements settings record from rfl, announcements, hdark,
      if_neg Bool.false_ne_true]
  · exact report_scan_again settings record
  · exact record_scan_again settings record
  · rw [errored_scan] at h
    split at h
    · exact isUnjudged_iff.1 (List.mem_filter.1 h).2
    · exact absurd h List.not_mem_nil

/-- A language that cannot be judged is reported by each scan. -/
theorem scanConflicts_twice_reports_unjudged :
    let parsed (text : String) : Option Settings.Layer := (Settings.Layer.parse text).toOption
    let rust := parsed "\x7b\"[rust]\": \x7b\"editor.defaultFormatter\": 5\x7d\x7d"
    let settings : Settings := { layers := { workspace := rust } }
    let first := Application.scanConflicts settings {}
    let second := Application.scanConflicts settings first.2
    warningsShown settings = true ∧ second.1 ≠ {} ∧ second.1.errored = ["rust"] := by
  decide +kernel

end FormatChain.Conflict
