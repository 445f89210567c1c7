import FormatChain.Proofs.Conflict.Scanning
import FormatChain.Proofs.Run.Keeping

/-!
# Scans before and after a run

A run puts back the value that it found, so a scan after it reads what a scan before it would have
read.  But the languages that a scan looks at may be those that have a block, and a run takes an
empty block of its language away.

* `Settings.languageIds_of_dropped` : the languages with a block, when an empty one is gone.
* `Conflict.SameFindings` : two scans record and report the same.
* `Conflict.sameFindings_iff_of_dropped` : what a scan finds when a language has lost its block.
* `Host.ForgetsBlock`, `Host.run_unnoticed_iff` : the runs of which scans take notice.
-/

namespace FormatChain

open FormatChain.Json
open FormatChain.Settings (Scope Layer PerScope)

/-! ## Lists without a language -/

/-- A filter that drops a language anyway does not miss it. -/
theorem filter_left_out {language : String} {keep : String → Bool}
    (hkeep : keep language = false) (languages : List String) :
    (languages.filter (· != language)).filter keep = languages.filter keep := by
  rw [List.filter_filter]
  refine List.filter_congr fun l _ => ?_
  by_cases hl : l = language
  · simp [hl, hkeep]
  · simp [hl]

/-- Behind others that it is among, a language does not count. -/
theorem eraseDups_append_left_out {language : String} {languages : List String}
    (hmem : language ∈ languages) (others : List String) :
    (languages ++ others.filter (· != language)).eraseDups = (languages ++ others).eraseDups := by
  rw [eraseDups_append_filter, eraseDups_append_filter, eraseDups_filter,
    filter_left_out (by simp [hmem])]

namespace Settings

/-! ## Languages with a block -/

theorem PerScope.nodup_scopes {α : Type} (p : PerScope α) : (p.toList.map Prod.fst).Nodup := by
  obtain ⟨_ | _, _ | _, _ | _⟩ := p <;> simp [PerScope.toList, Scope.all, PerScope.get?]

variable {s s' : Settings} {scope : Scope} {layer : Layer} {language : String}

/-- The narrowest scope comes last, and a new layer of it takes the place of the old one. -/
theorem toList_set_narrowest (hscope : s.narrowestScope? = some scope) :
    ∃ layer before, s.layers.get? scope = some layer ∧
      s.layers.toList = before ++ [(scope, layer)] ∧
      (∀ new, (s.layers.set scope new).toList = before ++ [(scope, new)]) ∧
      ∀ entry, entry ∈ before ↔ entry.1 ≠ scope ∧ s.layers.get? entry.1 = some entry.2 := by
  obtain ⟨layer, before, hlist, hlayer⟩ := get?_narrowestScope hscope
  have hnodup := PerScope.nodup_scopes s.layers
  rw [hlist, List.map_append, List.nodup_append] at hnodup
  have hother : ∀ entry ∈ before, entry.1 ≠ scope := fun entry hentry =>
    hnodup.2.2 _ (List.mem_map_of_mem hentry) scope (List.mem_singleton_self _)
  refine ⟨layer, before, hlayer, hlist, fun new => ?_, fun entry => ?_⟩
  · have hset : (s.setLayer scope new).layers.toList =
        s.layers.toList.map fun entry => (entry.1, if entry.1 = scope then new else entry.2) :=
      toList_setLayer_of_get? hlayer
    rw [hlist, List.map_append] at hset
    refine hset.trans (congrArg₂ (· ++ ·) ?_ (by simp))
    refine (List.map_congr_left fun entry hentry => ?_).trans (List.map_id before)
    rw [if_neg (hother entry hentry)]
    rfl
  · rw [← PerScope.mem_toList, hlist, List.mem_append, List.mem_singleton]
    constructor
    · intro hentry
      exact ⟨hother entry hentry, .inl hentry⟩
    · rintro ⟨hne, hentry | rfl⟩
      · exact hentry
      · exact absurd rfl hne

/-- Without an empty block every value is as it was. -/
theorem value?_of_dropped (hlayers : s'.layers = dropEmptyBlock s.layers scope language)
    (key : String) (language : Option String) : s'.value? key language = s.value? key language := by
  refine value?_congr (fun scope' key language' => ?_) key language
  rw [raw?, raw?, hlayers, dropEmptyBlock]
  cases hlayer : s.layers.get? scope with
  | none => rfl
  | some layer =>
    rw [PerScope.get?_set]
    split
    · next heq =>
      rw [← heq, hlayer, Option.bind_some, Option.bind_some, Layer.get?_dropEmptyBlock]
    · rfl

/-- The language has a block at the scope alone, and nothing in it. -/
def HasLoneEmptyBlock (s : Settings) (scope : Scope) (language : String) : Prop :=
  (∃ layer, s.layers.get? scope = some layer ∧ layer.HasEmptyBlock language) ∧
    ∀ other layer, other ≠ scope → s.layers.get? other = some layer →
      language ∉ layer.languages.names

/-- An empty block at a scope is the only one of its language if no other layer names it. -/
theorem hasLoneEmptyBlock_iff {before : List (Scope × Layer)}
    (hlayer : s.layers.get? scope = some layer) (hempty : layer.HasEmptyBlock language)
    (hbefore : ∀ entry, entry ∈ before ↔ entry.1 ≠ scope ∧ s.layers.get? entry.1 = some entry.2) :
    s.HasLoneEmptyBlock scope language ↔
      language ∉ before.flatMap fun entry => entry.2.languages.names := by
  rw [List.mem_flatMap]
  constructor
  · rintro ⟨-, hothers⟩ ⟨entry, hentry, hname⟩
    obtain ⟨hne, hget⟩ := (hbefore entry).1 hentry
    exact hothers entry.1 entry.2 hne hget hname
  · intro hnone
    exact ⟨⟨layer, hlayer, hempty⟩, fun other layer' hne hget hname =>
      hnone ⟨(other, layer'), (hbefore _).2 ⟨hne, hget⟩, hname⟩⟩

/-- **The languages with a block** are the same without an empty block, unless it was the only block
of its language. -/
theorem languageIds_of_dropped (hscope : s.narrowestScope? = some scope)
    (hlayers : s'.layers = dropEmptyBlock s.layers scope language) :
    s.HasLoneEmptyBlock scope language ∧ language ∈ s.languageIds ∧
        s'.languageIds = s.languageIds.filter (· != language) ∨
      ¬ s.HasLoneEmptyBlock scope language ∧ s'.languageIds = s.languageIds := by
  obtain ⟨layer, before, hlayer, hlist, hset, hbefore⟩ := toList_set_narrowest hscope
  have hlayers' : s'.layers.toList = before ++ [(scope, layer.dropEmptyBlock language)] := by
    rw [hlayers, dropEmptyBlock, hlayer, hset]
  rw [languageIds_eq, languageIds_eq, hlayers', hlist]
  simp only [List.flatMap_append, List.flatMap_singleton]
  by_cases hempty : layer.HasEmptyBlock language
  · rw [Layer.dropEmptyBlock_of_hasEmptyBlock hempty]
    have hmem : language ∈ layer.languages.names :=
      OrderedMap.mem_names_iff.2 (hempty.imp fun _ => And.left)
    have hlone := hasLoneEmptyBlock_iff hlayer hempty hbefore
    generalize (before.flatMap fun entry => entry.2.languages.names) = names at hlone ⊢
    simp only [OrderedMap.names_erase]
    by_cases hnames : language ∈ names
    · -- The language is met before.
      exact .inr ⟨by simpa [hlone] using hnames, eraseDups_append_left_out hnames _⟩
    · refine .inl ⟨hlone.2 hnames, by simp [hmem], ?_⟩
      have hkept : names.filter (· != language) = names := by
        refine List.filter_eq_self.2 fun other hother => ?_
        simpa using fun heq : other = language => hnames (heq ▸ hother)
      rw [← eraseDups_filter, List.filter_append, hkept]
  · rw [Layer.dropEmptyBlock_of_not hempty]
    refine .inr ⟨fun hlone => hempty ?_, rfl⟩
    obtain ⟨⟨found, hfound, hempty⟩, -⟩ := hlone
    obtain rfl := Option.some.inj (hlayer.symm.trans hfound)
    exact hempty

end Settings

namespace Conflict

variable {old new settings : Settings} {record : Record} {language : String}

/-! ## Scans of the same values -/

/-- Two scans record and report the same.  The languages whose conflict is over may be reported in
another order. -/
structure SameFindings (p q : Progress) : Prop where
  recorded : p.record = q.record
  newConflicts : p.report.newConflicts = q.report.newConflicts
  resolved : p.report.resolved.Perm q.report.resolved
  errored : p.report.errored = q.report.errored

theorem SameFindings.refl (p : Progress) : SameFindings p p := ⟨rfl, rfl, .refl _, rfl⟩

section SameValues

variable (hvalues : ∀ key language, new.value? key language = old.value? key language)

include hvalues

theorem read_of_same_values {α : Type} (decode : Decoder α) (key : String)
    (language : Option String) : new.read decode key language = old.read decode key language := by
  rw [Settings.read, Settings.read, hvalues]

theorem offender_of_same_values (language : String) :
    offender new language = offender old language := by
  rw [offender, offender, read_of_same_values hvalues, read_of_same_values hvalues]

theorem scanLanguages_of_same_values (record : Record) (languages : List String) :
    scanLanguages new record languages = scanLanguages old record languages := by
  have hcheck : Progress.check new = Progress.check old := by
    funext p language
    rw [Progress.check, Progress.check, offender_of_same_values hvalues]
  rw [scanLanguages, scanLanguages, hcheck]

theorem listed_of_same_values : listed new = listed old := by
  rw [listed, listed, read_of_same_values hvalues]

/-- A scan of the same values looks at the same languages, if these have blocks or not. -/
theorem value_scan_of_same_values (record : Record) :
    (scan new record).value =
      if warningsShown old then
        (scanLanguages old record
          (if (listed old).isEmpty then new.languageIds else listed old)).value
      else { record := .empty } := by
  have hshown : warningsShown new = warningsShown old := by
    rw [warningsShown, warningsShown, read_of_same_values hvalues]
  rw [value_scan, value_scannedLanguages, scanLanguages_of_same_values hvalues, hshown,
    listed_of_same_values hvalues]

end SameValues

/-! ## Leaving a language out -/

/-- No language is both looked at and not. -/
theorem nodup_met_and_unmet (keep : String → Bool) (record : Record) (languages : List String) :
    (languages.eraseDups.filter keep ++ record.languages.filter (!languages.contains ·)).Nodup := by
  rw [List.nodup_append]
  refine ⟨(nodup_eraseDups languages).sublist List.filter_sublist,
    record.nodup.sublist List.filter_sublist, ?_⟩
  rintro a ha _ hb rfl
  have hmet : a ∈ languages := List.mem_eraseDups.1 (List.mem_filter.1 ha).1
  simpa [hmet] using (List.mem_filter.1 hb).2

theorem Record.ext_languages {r r' : Record} (h : r.languages = r'.languages) : r = r' := by
  cases r
  cases r'
  cases h
  rfl

/-- A scan finds the same without a language that is clear. -/
theorem sameFindings_of_isClear (record : Record) (languages : List String)
    (hclear : isClear settings language = true) :
    SameFindings (scanLanguages settings record languages).value
      (scanLanguages settings record (languages.filter (· != language))).value := by
  obtain ⟨hconflict, hjudged⟩ :
      conflict? settings language = none ∧ isUnjudged settings language = false := by
    simpa [hclear] using judged_cases settings language
  have hall := scanLanguages_scanned settings record languages
  have hothers := scanLanguages_scanned settings record (languages.filter (· != language))
  refine ⟨Record.ext_languages ?_, ?_, ?_, ?_⟩
  · rw [hall.recorded, hothers.recorded, eraseDups_filter, filter_left_out (by simp [hconflict])]
    congr 1
    refine List.filter_congr fun l _ => ?_
    by_cases hl : l = language
    · simp [hl, hclear]
    · simp [hl]
  · rw [hall.newConflicts, hothers.newConflicts, eraseDups_filter, List.filter_filter,
      List.filterMap_filter, List.filterMap_filter]
    congr 1
    funext l
    by_cases hl : l = language
    · simp [hl, hconflict]
    · simp [hl]
  · have hnodup :=
      nodup_met_and_unmet (fun l => isClear settings l && record.contains l) record languages
    have hnodup' := nodup_met_and_unmet (fun l => isClear settings l && record.contains l) record
      (languages.filter (· != language))
    rw [← hall.resolved] at hnodup
    rw [← hothers.resolved] at hnodup'
    refine (List.perm_ext_iff_of_nodup hnodup hnodup').2 fun l => ?_
    rw [hall.resolved, hothers.resolved]
    by_cases hl : l = language
    · subst hl
      by_cases hmet : l ∈ languages <;> simp [Record.contains, hclear, hmet]
    · simp [hl]
  · rw [hall.errored, hothers.errored, filter_left_out hjudged]

/-- A scan finds something else without a language that is not clear. -/
theorem not_sameFindings_of_not_isClear (record : Record) {languages : List String}
    (hmem : language ∈ languages) (hclear : isClear settings language = false) :
    ¬ SameFindings (scanLanguages settings record languages).value
      (scanLanguages settings record (languages.filter (· != language))).value := by
  intro hsame
  have hall := scanLanguages_scanned settings record languages
  have hothers := scanLanguages_scanned settings record (languages.filter (· != language))
  rcases judged_cases settings language with ⟨h, -, -⟩ | ⟨-, hconflict, -⟩ | ⟨-, -, hjudged⟩
  · exact Bool.false_ne_true (hclear.symm.trans h)
  · -- With the language it is recorded, and without it it is not.
    have hwith := hall.mem.2 ⟨hmem, .inl hconflict⟩
    rw [hsame.recorded] at hwith
    simpa using (hothers.mem.1 hwith).1
  · have hwith : language ∈ languages.filter (isUnjudged settings) :=
      List.mem_filter.2 ⟨hmem, hjudged⟩
    rw [← hall.errored, hsame.errored, hothers.errored] at hwith
    simp at hwith

/-- Settings with the same values and the same languages are scanned alike. -/
theorem sameFindings_of_same_languageIds
    (hvalues : ∀ key language, new.value? key language = old.value? key language)
    (hids : new.languageIds = old.languageIds) (record : Record) :
    SameFindings (scan old record).value (scan new record).value := by
  rw [value_scan_of_same_values hvalues, hids, value_scan, value_scannedLanguages]
  exact .refl _

/-- **What a scan finds when a language has lost its block** is the same, unless it looks at the
languages with a block, and this one is not clear. -/
theorem sameFindings_iff_of_dropped
    (hvalues : ∀ key language, new.value? key language = old.value? key language)
    (hmem : language ∈ old.languageIds)
    (hids : new.languageIds = old.languageIds.filter (· != language)) (record : Record) :
    SameFindings (scan old record).value (scan new record).value ↔
      ¬ (warningsShown old = true ∧ (listed old).isEmpty = true ∧
        isClear old language = false) := by
  rw [value_scan_of_same_values hvalues, hids, value_scan, value_scannedLanguages]
  cases warningsShown old with
  | false => exact iff_of_true (.refl _) (by simp)
  | true =>
    rw [if_pos rfl, if_pos rfl]
    cases (listed old).isEmpty with
    | false => exact iff_of_true (.refl _) (by simp)
    | true =>
      rw [if_pos rfl, if_pos rfl]
      cases hclear : isClear old language with
      | true => exact iff_of_true (sameFindings_of_isClear record _ hclear) (by simp)
      | false =>
        exact iff_of_false (not_sameFindings_of_not_isClear record hmem hclear) (by simp)

end Conflict

/-! ## Runs -/

namespace Host

open Conflict (SameFindings isClear listed scan value_scan value_scannedLanguages warningsShown)

/-- The run takes the only block of the document's language away, which is empty; and scans look at
the languages with a block, and would have recorded this one or failed at it. -/
structure ForgetsBlock (n : Nat) (chain : Chain) (s : Session) : Prop where
  block : ∃ scope, NamesFormatters n chain s scope ∧
    s.app.settings.HasLoneEmptyBlock scope (s.document n).language
  shown : warningsShown s.app.settings = true
  unlisted : (listed s.app.settings).isEmpty = true
  judged : isClear s.app.settings (s.document n).language = false

/-- **Scans take no notice of a run, unless it forgets a block.**  Let formatters, and all that goes
on during the sleeps, keep the settings.  Then a scan after the run records and reports the same,
whatever was recorded before, as a scan before the run would, except if the run takes away an empty
block at the narrowest scope that made scans look at the document's language. -/
theorem run_unnoticed_iff {host : Host} (hkeeps : host.KeepsSettings) (n : Nat) (chain : Chain)
    (options : RunOptions) (s : Session) (record : Conflict.Record) :
    SameFindings (scan s.app.settings record).value
        (scan (host.run n chain options s).2.app.settings record).value ↔
      ¬ ForgetsBlock n chain s := by
  rcases layers_run hkeeps n chain options s with ⟨scope, hnames, hlayers⟩ | ⟨hnames, hlayers⟩
  · have hvalues := Settings.value?_of_dropped hlayers
    rcases Settings.languageIds_of_dropped hnames.narrowest hlayers with
      ⟨hlone, hmem, hids⟩ | ⟨hlone, hids⟩
    · rw [Conflict.sameFindings_iff_of_dropped hvalues hmem hids]
      refine not_congr ⟨fun ⟨hshown, hunlisted, hjudged⟩ => ?_, fun h => ?_⟩
      · exact ⟨⟨scope, hnames, hlone⟩, hshown, hunlisted, hjudged⟩
      · exact ⟨h.shown, h.unlisted, h.judged⟩
    · refine iff_of_true (Conflict.sameFindings_of_same_languageIds hvalues hids record) fun h => ?_
      obtain ⟨scope', hnames', hlone'⟩ := h.block
      obtain rfl := Option.some.inj (hnames.narrowest.symm.trans hnames'.narrowest)
      exact hlone hlone'
  · -- No formatter was named, and the layers are the same.
    have hraw : ∀ scope key language,
        (host.run n chain options s).2.app.settings.raw? scope key language =
          s.app.settings.raw? scope key language := by
      intro scope key language
      rw [Settings.raw?, hlayers, Settings.raw?]
    have hids : (host.run n chain options s).2.app.settings.languageIds =
        s.app.settings.languageIds := by
      rw [Settings.languageIds, hlayers, Settings.languageIds]
    refine iff_of_true (Conflict.sameFindings_of_same_languageIds (Settings.value?_congr hraw)
      hids record) fun h => ?_
    obtain ⟨scope, hnames', -⟩ := h.block
    exact hnames scope hnames'

/-- Rust files, which the editor formats on save, are no longer scanned after a run if all that they
have is an empty block. -/
theorem run_forgets_empty_block :
    let formatter : Formatter :=
      { id := "fmtA", onDisk := false, format := fun _ => pure (.text "b") }
    let host : Host := ⟨.ofFormatters [formatter], fun _ => pure ()⟩
    let chain : Chain := ⟨["fmtA"], by decide⟩
    let options : RunOptions := ⟨0, false, false, ⟨1, 0⟩⟩
    let everywhere : Layer := { Layer.empty with
      general := .ofEntries [("editor.formatOnSave", .bool true),
        ("editor.defaultFormatter", .string "global.tool")] }
    let workspace : Layer := { Layer.empty with languages := .ofEntries [("rust", .empty)] }
    let s : Session :=
      { app := { settings :=
          { layers := { global := some everywhere, workspace := some workspace } } }
        documents := [⟨⟨"/project/a.rs"⟩, "rust", "a", none, .memory, 1⟩] }
    host.KeepsSettings ∧ ForgetsBlock 0 chain s ∧
      ¬ SameFindings (scan s.app.settings .empty).value
        (scan (host.run 0 chain options s).2.app.settings .empty).value := by
  intro formatter host chain options everywhere workspace s
  have hkeeps : host.KeepsSettings := by
    rintro _ _ (⟨s, millis⟩ | ⟨hget, request, s⟩)
    · rfl
    · obtain rfl := List.mem_singleton.1 (Registry.mem_of_get? hget)
      rfl
  have hforgets : ForgetsBlock 0 chain s := by
    refine ⟨⟨.workspace, ⟨rfl, by decide, by decide, rfl, rfl, ⟨_, rfl, rfl⟩⟩,
      ⟨_, rfl, _, rfl, rfl⟩, ?_⟩, by decide, by decide, by decide⟩
    rintro (_ | _ | _) layer hother hlayer
    · obtain rfl := Option.some.inj hlayer
      decide
    · exact absurd rfl hother
    · exact absurd hlayer (by simp [s, PerScope.get?])
  exact ⟨hkeeps, hforgets, fun hsame =>
    (run_unnoticed_iff hkeeps 0 chain options s .empty).1 hsame hforgets⟩

end Host

end FormatChain
