import FormatChain.Proofs.Command.Reporting
import FormatChain.Proofs.Run.Agreement

/-!
# The file after it was formatted

After a file was formatted without a failure it has the text of the document, but for one case.  A
formatter on disk rewrote the file, later formatters led back to the original text, and nothing was
saved after that: then there is no change to write, and the file keeps what the formatter on disk
made of it.

* `Command.IsLeftBehind` : the exception.
* `Command.formatFile_agrees` : the file has the text of the document, except then.
-/

namespace FormatChain.Command

open FormatChain.Session (WithEvents)
open FormatChain.Host (SavedIf)

variable {host : Host} {d : Document} {s prepared : Session}

/-- The file was left behind with this text by a run that was to save nothing: the text was saved
last, but the document is back at the text from the start. -/
def IsLeftBehind (options : RunOptions) (report : RunReport) (d : Document) (text : String) :
    Prop :=
  options.saveAfterEach = false ∧ options.saveAfterChain = false ∧ report.edit = .noChanges ∧
    d.saved = some text ∧ text ≠ d.text

/-- The document of a file that was prepared is in step with it. -/
theorem opened_inStep (hread : prepared.read d.path = .ok d.text) (hsaved : d.saved = none)
    (htarget : d.target = .disk) (hfile : prepared.HoldsTexts d.path) :
    (opened d prepared).InStep prepared.documents.length d.path d.text := by
  refine ⟨?_, ?_, hfile, ?_⟩
  · rw [opened_document]
  · rw [opened_document, htarget]
  · rw [opened_document, hsaved]
    exact hread

/-- The run on a file that was prepared leaves the file in step. -/
theorem runLanguageChain_inStep {n : Nat} {p : Path} {report : RunReport} {after : Session}
    (hran : runLanguageChain host n s = (report, after)) (hminds : host.MindsFile n p)
    (hin : s.InStep n p (s.document n).text) (hagrees : s.Agrees n p) :
    let options := (resolveRunOptions s.app.settings (s.document n).language).value
    after.InStep n p (s.document n).text ∧
      (report.failure = none → options.saveAfterEach = true ∨ options.saveAfterChain = true →
        after.Agrees n p) ∧
      (∀ reason, report.edit = .skipped reason → after.Agrees n p) ∧
      (report.edit = .noChanges → (after.document n).text = (s.document n).text) := by
  obtain ⟨told, htold, hrun⟩ := runLanguageChain_eq host n s
  have htext : (told.document n).text = (s.document n).text := by rw [htold.document]
  have hran' := Host.run_inStep (resolveChain s.app.settings (s.document n).language).value
    (resolveRunOptions s.app.settings (s.document n).language).value hminds
    (htext ▸ hin.withEvents htold) (hagrees.withEvents htold)
  rw [← hrun, hran, htext] at hran'
  exact hran'

/-- What the file holds after the last write: the text of the document, unless it was left behind.
The run before it did not fail, and left the file in step. -/
theorem agrees_after_lastWrite {n : Nat} {p : Path} {original : String} {options : RunOptions}
    {report : RunReport} {after saved : Session}
    (hin : after.InStep n p original)
    (hsaves : options.saveAfterEach = true ∨ options.saveAfterChain = true → after.Agrees n p)
    (hskipped : ∀ reason, report.edit = .skipped reason → after.Agrees n p)
    (hunchanged : report.edit = .noChanges → (after.document n).text = original)
    (hsave : SavedIf n (IsUnwritten report (after.document n)) after none saved) :
    (∀ text, IsLeftBehind options report (after.document n) text → saved.read p = .ok text) ∧
      ((¬ ∃ text, IsLeftBehind options report (after.document n) text) →
        saved.read p = .ok (after.document n).text) := by
  cases hsave with
  | saved hunwritten hsave =>
    refine ⟨fun text hleft => ?_, fun _ => ?_⟩
    · obtain ⟨replaced, hedit⟩ := hunwritten.1
      exact absurd (hedit.symm.trans hleft.2.2.1) (by simp)
    · obtain ⟨hinSaved, hdocument⟩ := hsave.inStep hin
      have hagrees := hinSaved.agrees_of_clean (by rw [hdocument, Document.isDirty_markSaved])
      rw [Session.Agrees, hdocument] at hagrees
      exact hagrees
  | unwanted hwritten =>
    refine ⟨fun text hleft => ?_, fun hnot => ?_⟩
    · rw [hin.read, hleft.2.2.2.1, Option.getD_some]
    · cases hedit : report.edit with
      | skipped reason => exact hskipped reason hedit
      | replace text =>
        refine hin.agrees_of_clean ?_
        simpa [IsUnwritten, hedit] using hwritten
      | noChanges =>
        by_cases hoptions : options.saveAfterEach = true ∨ options.saveAfterChain = true
        · exact hsaves hoptions
        · rw [not_or, Bool.not_eq_true, Bool.not_eq_true] at hoptions
          rw [hin.read]
          cases hlast : (after.document n).saved with
          | none => rw [Option.getD_none, hunchanged hedit]
          | some text =>
            rw [Option.getD_some]
            by_cases htext : text = (after.document n).text
            · rw [htext]
            · exact absurd ⟨text, hoptions.1, hoptions.2, hedit, hlast, htext⟩ hnot

/-- A document that is formatted without a failure was saved or not to be saved, and told of. -/
theorem formatDocument_ok {n : Nat} {report : RunReport} {after : Session}
    (hran : runLanguageChain host n s = (report, after))
    (hok : ((formatDocument host n).run s).1 = .ok ()) :
    report.failure = none ∧ ∃ saved,
      SavedIf n (IsUnwritten report (after.document n)) after none saved ∧
        WithEvents saved ((formatDocument host n).run s).2 := by
  obtain ⟨cause, saved, hsave, -, hrun⟩ := run_formatDocument_cases hran
  rw [hrun] at hok ⊢
  cases cause with
  | some e => exact absurd hok (by simp)
  | none =>
    refine ⟨?_, saved, hsave, announce_onlySays _ _ saved⟩
    rw [Option.elim_none, run_announce_eq] at hok
    cases hfailed : report.failure with
    | none => rfl
    | some failure => simp [verdict, hfailed] at hok

/-- **After a file was formatted it has the text of the document, unless it was left behind.**  The
formatters and the sleeps may do whatever they like as long as they leave the file and the document
alone; only a formatter on disk that succeeds may have put any text into the file. -/
theorem formatFile_agrees {bench : Workbench} {file : String} {language : Option String}
    (hbench : ∀ settings, Action.OnlySays (bench.formatters settings))
    (h : (prepare bench file language).run s = (.ok (some (host, d)), prepared))
    (hminds : host.MindsFile prepared.documents.length d.path) (hfile : s.HoldsTexts d.path)
    (hok : ((formatFile bench file language).run s).1 = .ok ()) :
    let n := prepared.documents.length
    let options := (resolveRunOptions prepared.app.settings d.language).value
    let ran := runLanguageChain host n (opened d prepared)
    let last := ran.2.document n
    let final := ((formatFile bench file language).run s).2
    (final.read d.path = .ok last.text ↔ ¬ ∃ text, IsLeftBehind options ran.1 last text) ∧
      (∀ text, IsLeftBehind options ran.1 last text → final.read d.path = .ok text) ∧
      (ran.1.edit = .noChanges → last.text = d.text) := by
  intro n options ran last final
  obtain ⟨hsetUp, hread, hsaved, htarget, -⟩ := prepare_spec hbench h
  have hdocument : (opened d prepared).document n = d := opened_document d prepared
  have hin := opened_inStep ((hsetUp.read d.path).trans hread) hsaved htarget
    (hsetUp.holdsTexts hfile)
  have hlanguage : runLanguageChain host n (opened d prepared) = (ran.1, ran.2) := rfl
  obtain ⟨hvalue, -, hfinal⟩ := run_formatFile h
  clear_value ran
  have hran := runLanguageChain_inStep hlanguage hminds (by rw [hdocument]; exact hin)
    (by rw [Session.Agrees, hdocument]; exact (hsetUp.read d.path).trans hread)
  rw [hdocument] at hran
  obtain ⟨hinAfter, hsaves, hskipped, hunchanged⟩ := hran
  rw [hvalue] at hok
  obtain ⟨hfailure, saved, hsave, hsaid⟩ := formatDocument_ok hlanguage hok
  obtain ⟨hleft, hagrees⟩ :=
    agrees_after_lastWrite hinAfter (hsaves hfailure) hskipped hunchanged hsave
  change (((formatFile bench file language).run s).2.read d.path = _ ↔ _) ∧
    (∀ text, _ → ((formatFile bench file language).run s).2.read d.path = _) ∧ _
  rw [hfinal, hsaid.read]
  refine ⟨⟨fun hlast => ?_, hagrees⟩, hleft, hunchanged⟩
  rintro ⟨text, htext⟩
  exact htext.2.2.2.2 (Except.ok.inj ((hleft text htext).symm.trans hlast))

set_option maxRecDepth 2000 in
/-- A file is left behind: a formatter on disk rewrote it, and the next one led back to its text. -/
theorem formatFile_leaves_rewritten_file :
    let rewrite : Formatter := ⟨"rewrite", true, fun _ => do
      modify fun s => match s.write ⟨"/a.rs"⟩ "b" with
        | .ok disk => { s with disk }
        | .error _ => s
      return .fileUpdated⟩
    let back : Formatter := ⟨"back", false, fun _ => pure (.text "a")⟩
    let formatters : Registry := .ofFormatters [rewrite, back]
    let bench : Workbench := ⟨⟨"/"⟩, fun _ => pure formatters, fun _ => pure ()⟩
    let settings := "\x7b\"chainfmt.formatters\": [\"rewrite\", \"back\"], "
      ++ "\"chainfmt.saveAfterChain\": false\x7d"
    let s : Session :=
      { disk := .ofFiles [(⟨"/a.rs"⟩, "a"), (⟨"/.chainfmt/settings.json"⟩, settings)]
        outside := some {} }
    let host : Host := ⟨formatters, fun _ => pure ()⟩
    let d : Document := ⟨⟨"/a.rs"⟩, "rust", "a", none, .disk, 1⟩
    let prepared := ((prepare bench "a.rs" (some "rust")).run s).2
    let n := prepared.documents.length
    let ran := runLanguageChain host n (opened d prepared)
    let result := (formatFile bench "a.rs" (some "rust")).run s
    result.1 = .ok () ∧ ran.1.edit = .noChanges ∧ (ran.2.document n).text = d.text ∧
      result.2.read d.path = .ok "b" := by
  intro rewrite back formatters bench settings s host d prepared n ran result
  have hrewrite : rewrite.MindsFile n d.path := by
    refine ⟨fun _ _ _ _ hformat => absurd (Prod.mk.inj hformat).1 (by simp),
      fun hdisk => absurd hdisk (by simp [rewrite]), fun _ request s output s' hformat => ?_⟩
    obtain ⟨houtput, rfl⟩ := Prod.mk.inj hformat
    obtain rfl := Except.ok.inj houtput
    change _ ∧ Session.document (match s.write _ _ with | .ok disk => _ | .error _ => _) n = _ ∧
      (_ → Session.IsFile (match s.write _ _ with | .ok disk => _ | .error _ => _) d.path)
    cases hwrite : s.write ⟨"/a.rs"⟩ "b" with
    | ok disk =>
      exact ⟨rfl, rfl, fun hfile => ⟨hfile.1.write hwrite, _, Session.read_write hfile.1 hwrite⟩⟩
    | error e => exact ⟨rfl, rfl, fun hfile => hfile⟩
  have hback : back.MindsFile n d.path := by
    refine ⟨fun _ _ _ _ hformat => absurd (Prod.mk.inj hformat).1 (by simp),
      fun _ request s output s' hformat => ?_, fun hdisk => absurd hdisk (by simp [back])⟩
    obtain ⟨houtput, rfl⟩ := Prod.mk.inj hformat
    obtain rfl := Except.ok.inj houtput
    exact ⟨by simp, refl _⟩
  have hminds : host.MindsFile n d.path := by
    refine ⟨⟨fun _ _ h => h.leavesFile, fun _ => Action.leads_pure _⟩, fun id f h => ?_⟩
    rcases List.mem_cons.1 (Registry.mem_of_get? h) with rfl | hlast
    · exact hrewrite
    · obtain rfl := List.mem_singleton.1 hlast
      exact hback
  have hprepared : (prepare bench "a.rs" (some "rust")).run s =
      (.ok (some (host, d)), prepared) := by
    -- Only closed terms are evaluated.
    subst rewrite back formatters bench settings s host d prepared n ran result
    rfl
  have hran : result.1.isOk = true ∧ ran.1.edit = .noChanges ∧
      (ran.2.document n).text = d.text ∧ (ran.2.document n).saved = some "b" ∧
      "b" ≠ (ran.2.document n).text ∧
      (resolveRunOptions prepared.app.settings d.language).value.saveAfterEach = false ∧
      (resolveRunOptions prepared.app.settings d.language).value.saveAfterChain = false := by
    subst rewrite back formatters bench settings s host d prepared n ran result
    decide +kernel
  obtain ⟨hok, hedit, htext, hsaved, hdiffers, heach, hchain⟩ := hran
  have hok : result.1 = .ok () := by
    cases hresult : result.1 with
    | ok u => rfl
    | error e => simp [hresult, Except.isOk, Except.toBool] at hok
  have hbench : ∀ settings, Action.OnlySays (bench.formatters settings) :=
    fun _ => Action.leads_pure _
  have hfile : s.HoldsTexts d.path := rfl
  clear_value rewrite back formatters bench settings s host d prepared
  obtain ⟨-, hleft, -⟩ := formatFile_agrees hbench hprepared hminds hfile hok
  exact ⟨hok, hedit, htext, hleft "b" ⟨heach, hchain, hedit, hsaved, hdiffers⟩⟩

end FormatChain.Command
