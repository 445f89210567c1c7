import FormatChain.Proofs.Command.Agreement
import FormatChain.Proofs.Run.Folding

/-!
# Formatting a file as a fold

If the formatters are functions of what they are told, and nothing gets in the way, then formatting
a file is a fold of its chain over its text.  In the end the file holds the fold, whenever the run
saves.

* `Settings.SameButSaving` : settings that differ at most in when a run saves.
* `resolveChain_sameButSaving` : such settings have the same chains.
* `Command.formatFile_folds` : the file holds the fold of its chain over its text.
-/

namespace FormatChain

open FormatChain.Session (WithEvents)
open FormatChain.Settings (Scope)

/-! ## Chains and saving -/

/-- The settings differ at most in what they say about saving. -/
def Settings.SameButSaving (a b : Settings) : Prop :=
  ∀ key language, key ≠ Settings.Key.saveAfterEachFormatter → key ≠ Settings.Key.saveAfterChain →
    a.inspect key language = b.inspect key language

theorem Settings.readOrWarn_of_inspect {a b : Settings} {α : Type} {decode : Json.Decoder α}
    {key : String} {language : Option String}
    (h : a.inspect key language = b.inspect key language) :
    a.readOrWarn decode key language = b.readOrWarn decode key language := by
  simp only [readOrWarn, read, value?, h]

/-- A chain does not depend on when a run saves. -/
theorem resolveChain_sameButSaving {a b : Settings} (h : a.SameButSaving b) (language : String) :
    resolveChain a language = resolveChain b language := by
  have hlanguages := h Settings.Key.languages none (by decide) (by decide)
  have hfamilies := h Settings.Key.languageFamilies none (by decide) (by decide)
  have hleading := h Settings.Key.defaultFormatter (some language) (by decide) (by decide)
  have hlisted (l : Option String) := h Settings.Key.formatters l (by decide) (by decide)
  simp only [resolveChain, isLanguageEnabled, leadingFormatter, listedFormatters,
    familyFormatters?, blockFormatters?, generalFormatters?, family?, hlisted,
    Settings.readOrWarn_of_inspect hlanguages, Settings.readOrWarn_of_inspect hfamilies,
    Settings.readOrWarn_of_inspect hleading]

namespace Command

variable {host : Host} {d : Document} {s prepared : Session} {g : String → TextFunction}
  {scope : Scope}

/-! ## Files -/

/-- Nothing gets in the way of formatting a file that was prepared. -/
theorem opened_ready (hsetUp : Session.SetsUp s prepared)
    (hin : (opened d prepared).InStep prepared.documents.length d.path d.text)
    (hgoing : s.cancelled = false) (hwritable : s.IsWritable d.path)
    (hscope : prepared.app.settings.narrowestScope? = some scope)
    (hlayer : prepared.app.settings.IsWritable scope) :
    (opened d prepared).Ready prepared.documents.length d.path d.text scope d.language d.text := by
  have hdocument := opened_document d prepared
  refine ⟨hin, hsetUp.isWritable hwritable, ?_, hscope, hlayer, ?_, ?_⟩
  · exact hsetUp.cancelled.trans hgoing
  · rw [hdocument]
  · rw [hdocument]

/-- The run on a file that was prepared is a fold. -/
theorem runLanguageChain_folds {n : Nat} {p : Path} {language text : String}
    (hcomputes : host.Computes g) (hidles : host.Idles WithEvents)
    (hfree : s.app.guard.held = false) (hnew : (s.document n).saved = none)
    (hready : s.Ready n p text scope language text) :
    let ids := (resolveChain s.app.settings language).value.ids
    let options := (resolveRunOptions s.app.settings language).value
    let ran := runLanguageChain host n s
    ran.2.Ready n p text scope language (host.foldText g p language ids text) ∧
      host.TellsOfFold g p language ids text ran.1 ∧
      (options.saveAfterEach = false → options.saveAfterChain = false →
        (ran.2.document n).saved = none) := by
  intro ids options ran
  obtain ⟨told, htold, hrun⟩ := runLanguageChain_eq host n s
  rw [hready.language] at hrun
  change ran = _ at hrun
  rw [hrun]
  refine Host.run_folds _ options hcomputes hidles ?_ ?_ (hready.withEvents htold)
  · rw [htold.app, hfree]
  · rw [htold.document, hnew]

/-- Formatting a document that was never saved, of which nothing gets in the way, is a fold. -/
theorem formatDocument_folds {n : Nat} {p : Path} {language text : String}
    (hcomputes : host.Computes g) (hidles : host.Idles WithEvents)
    (hfree : s.app.guard.held = false) (hnew : (s.document n).saved = none)
    (hready : s.Ready n p text scope language text) :
    let ids := (resolveChain s.app.settings language).value.ids
    ((formatDocument host n).run s).1 = .ok () ∧
      ((formatDocument host n).run s).2.read p = .ok (host.foldText g p language ids text) ∧
      host.TellsOfFold g p language ids text (runLanguageChain host n s).1 := by
  intro ids
  have hfolds := runLanguageChain_folds hcomputes hidles hfree hnew hready
  rcases hran : runLanguageChain host n s with ⟨report, after⟩
  -- Formatters that compute leave the file to the editor.
  have hopened : s.Agrees n p := by
    rw [Session.Agrees, hready.inStep.read, hnew, hready.text]
    rfl
  have hagrees := runLanguageChain_inStep hran (hcomputes.mindsFile hidles n p)
    (hready.text.symm ▸ hready.inStep) hopened
  rw [hready.text, hready.language] at hagrees
  rw [hran] at hfolds
  obtain ⟨hend, hfold, hkept⟩ := hfolds
  obtain ⟨hinAfter, hsaves, hskipped, hunchanged⟩ := hagrees
  -- So the last write is not refused, and the file is not left behind.
  obtain ⟨cause, saved, hsave, -, hformatted⟩ := run_formatDocument_cases hran
  obtain ⟨rfl, -⟩ := hsave.ready hend
  obtain ⟨-, hlast⟩ := agrees_after_lastWrite hinAfter (hsaves hfold.failure) hskipped hunchanged
    hsave
  have hwritten : saved.read p = .ok (after.document n).text := by
    refine hlast ?_
    rintro ⟨left, heach, hchain, -, hleft, -⟩
    exact absurd ((hkept heach hchain).symm.trans hleft) (by simp)
  refine ⟨?_, ?_, hfold⟩
  · rw [hformatted, Option.elim_none, run_announce_eq, verdict, hfold.failure]
  · rw [hformatted, Option.elim_none, (announce_onlySays _ _ saved).read, hwritten, hend.text]

/-- **Formatting a file is a fold.**  Take formatters that are functions of what they are told, a
file that was prepared and may be written, and settings whose narrowest layer may be written.
Unless somebody wants to stop or another run is going on, formatting the file succeeds, leaves it
with the fold of its chain over its text, and the report on the run tells of this fold.  The fold
does not depend on when the run saves. -/
theorem formatFile_folds {bench : Workbench} {file : String} {language : Option String}
    (hbench : ∀ settings, Action.OnlySays (bench.formatters settings))
    (hmeanwhile : ∀ millis, Action.OnlySays (bench.meanwhile millis))
    (h : (prepare bench file language).run s = (.ok (some (host, d)), prepared))
    (hcomputes : host.Computes g) (hgoing : s.cancelled = false)
    (hfree : s.app.guard.held = false) (hfile : s.HoldsTexts d.path)
    (hwritable : s.IsWritable d.path)
    (hscope : prepared.app.settings.narrowestScope? = some scope)
    (hlayer : prepared.app.settings.IsWritable scope) :
    let ids := (resolveChain prepared.app.settings d.language).value.ids
    let final := host.foldText g d.path d.language ids d.text
    let report := (runLanguageChain host prepared.documents.length (opened d prepared)).1
    let result := (formatFile bench file language).run s
    result.1 = .ok () ∧ result.2.read d.path = .ok final ∧
      host.TellsOfFold g d.path d.language ids d.text report ∧
      ∀ others : Settings, prepared.app.settings.SameButSaving others →
        host.foldText g d.path d.language (resolveChain others d.language).value.ids d.text =
          final := by
  intro ids final report
  obtain ⟨hsetUp, hread, hsaved, htarget, hslept⟩ := prepare_spec hbench h
  have hidles : host.Idles WithEvents :=
    ⟨fun _ _ hsaid => hsaid, fun millis => hslept ▸ hmeanwhile millis⟩
  have hin := opened_inStep ((hsetUp.read d.path).trans hread) hsaved htarget
    (hsetUp.holdsTexts hfile)
  have hnew : ((opened d prepared).document prepared.documents.length).saved = none := by
    rw [opened_document, hsaved]
  obtain ⟨hok, hfold, htold⟩ := formatDocument_folds hcomputes hidles (hsetUp.guard ▸ hfree) hnew
    (opened_ready hsetUp hin hgoing hwritable hscope hlayer)
  obtain ⟨hvalue, -, hfinal⟩ := run_formatFile h
  refine ⟨hvalue.trans hok, (hfinal d.path).trans hfold, htold, fun others hothers => ?_⟩
  rw [← resolveChain_sameButSaving hothers]

/-- A formatter that is missing leaves the text to those before and after it. -/
theorem formatFile_folds_around_missing :
    let append : TextFunction := fun request => .ok (some (request.text ++ "!"))
    let formatters : Registry := .ofFormatters [.ofFunction "append" append]
    let bench : Workbench := ⟨⟨"/"⟩, fun _ => pure formatters, fun _ => pure ()⟩
    let settings :=
      "\x7b\"chainfmt.formatters\": [\"append\", \"missing\", \"append\"]\x7d"
    let s : Session :=
      { disk := .ofFiles [(⟨"/a.rs"⟩, "a"), (⟨"/.chainfmt/settings.json"⟩, settings)]
        outside := some {} }
    let result := (formatFile bench "a.rs" (some "rust")).run s
    result.1 = .ok () ∧ result.2.read ⟨"/a.rs"⟩ = .ok "a!!" := by
  intro append formatters bench settings s result
  let host : Host := ⟨formatters, fun _ => pure ()⟩
  let d : Document := ⟨⟨"/a.rs"⟩, "rust", "a", none, .disk, 1⟩
  let prepared := ((prepare bench "a.rs" (some "rust")).run s).2
  have hcomputes : host.Computes fun _ => append := by
    intro id f h
    obtain rfl := List.mem_singleton.1 (Registry.mem_of_get? h)
    exact Formatter.ofFunction_computes _ _
  have hprepared :
      (prepare bench "a.rs" (some "rust")).run s = (.ok (some (host, d)), prepared) ∧
      prepared.app.settings.narrowestScope? = some .workspace ∧
      prepared.app.settings.IsWritable .workspace ∧ s.IsWritable d.path ∧
      host.foldText (fun _ => append) d.path d.language
        (resolveChain prepared.app.settings d.language).value.ids d.text = "a!!" := by
    -- Only closed terms are evaluated.
    subst append formatters bench settings s host d prepared
    exact ⟨rfl, rfl, ⟨_, rfl, rfl⟩, fun _ => ⟨_, rfl⟩, rfl⟩
  obtain ⟨h, hscope, hlayer, hwritable, hfinal⟩ := hprepared
  obtain ⟨hok, hread, -⟩ := formatFile_folds (fun _ => Action.leads_pure _)
    (fun _ => Action.leads_pure _) h hcomputes rfl rfl rfl hwritable hscope hlayer
  exact ⟨hok, hread.trans (congrArg Except.ok hfinal)⟩

end Command

end FormatChain
