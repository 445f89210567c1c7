import FormatChain.Proofs.Command.Agreement
import FormatChain.Proofs.Run.Straying

/-!
# What formatters on disk find in a file

A file is formatted with a save after each formatter, so that each formatter on disk finds the text
that the others made.  This holds of every step, and of the end, unless a formatter strays: it
rewrites the file of a clean document and fails.  Then the next formatter on disk takes what it
left, and the editor warns of unsaved changes although there are none.

* `Command.languageAskings` : the sessions in which formatting a file asks the editor.
* `Command.EndsWithSaves` : formatting a file ended without a save that was refused.
* `Command.formatFile_agrees_throughout_iff` : the file has the text of the document all the time if
  and only if no formatter strays.
-/

namespace FormatChain.Command

open FormatChain.Session (WithEvents)
open FormatChain.Host (Asking AgreesThroughout NoSaveRefused SavedIf)

variable {host : Host} {d : Document} {s prepared : Session} {n : Nat} {p : Path}

/-! ## The run -/

/-- The steps of the run on a document, with the sessions in which the editor is asked. -/
def languageAskings (host : Host) (n : Nat) (s : Session) : List Asking :=
  let chain := resolveChain s.app.settings (s.document n).language
  let options := resolveRunOptions s.app.settings (s.document n).language
  host.askings n chain.value options.value (Action.tell options (Action.tell chain s).2).2

theorem languageAskings_eq (host : Host) (n : Nat) (s : Session) :
    ∃ told, WithEvents s told ∧
      runLanguageChain host n s =
        host.run n (resolveChain s.app.settings (s.document n).language).value
          (resolveRunOptions s.app.settings (s.document n).language).value told ∧
      languageAskings host n s =
        host.askings n (resolveChain s.app.settings (s.document n).language).value
          (resolveRunOptions s.app.settings (s.document n).language).value told := by
  have hchain := Action.tell_onlySays (resolveChain s.app.settings (s.document n).language)
  have hoptions := Action.tell_onlySays (resolveRunOptions s.app.settings (s.document n).language)
  exact ⟨_, hoptions.after (hchain s), rfl, rfl⟩

/-- The run on a document that is about its file and was not changed since. -/
theorem runLanguageChain_agrees_iff (hmay : host.MayRewrite n p)
    (heach : (resolveRunOptions s.app.settings (s.document n).language).value.saveAfterEach = true)
    (hedits : s.Edits n p) (hsettled : (s.document n).IsSettled) (hagrees : s.Agrees n p)
    (hsaves : NoSaveRefused (runLanguageChain host n s).1.failure) :
    let ran := runLanguageChain host n s
    let askings := languageAskings host n s
    ran.1.steps = askings.map Asking.step ∧ ran.2.Edits n p ∧
      (AgreesThroughout askings n p ∧ ran.2.Agrees n p ↔
        ∀ asking ∈ askings, ¬ host.Strays n asking.asked) ∧
      ∀ asking ∈ askings, asking.asked.Edits n p ∧ (asking.step.failure ≠ none →
        ((host.formatDocument n).run asking.asked).2.document n = asking.named.document n) := by
  obtain ⟨told, htold, hrun, htells⟩ := languageAskings_eq host n s
  rw [hrun] at hsaves
  simp only [hrun, htells]
  have htoldEdits := hedits.leavesFile htold.leavesFile
  obtain ⟨hend, hiff⟩ := Host.run_agrees_iff _ hmay heach htoldEdits
    ((htold.document n).symm ▸ hsettled) (hagrees.withEvents htold) hsaves
  exact ⟨Host.run_steps_askings .., hend, hiff, Host.run_asks_about_file _ _ hmay htoldEdits⟩

/-! ## The whole command -/

/-- Formatting a file ended without a save that was refused: it succeeded, or stopped because a
formatter could not be named. -/
def EndsWithSaves (result : Except Failure Unit) : Prop :=
  ∀ e, result = .error e → ∃ path formatter cause,
    e = .runStopped path formatter (.settingRefused cause)

/-- If no save was refused, the run did not stop at one, and the last write was not refused. -/
theorem formatDocument_of_saves {report : RunReport} {after : Session}
    (hran : runLanguageChain host n s = (report, after))
    (hsaves : EndsWithSaves ((formatDocument host n).run s).1) :
    NoSaveRefused report.failure ∧ ∃ saved,
      SavedIf n (IsUnwritten report (after.document n)) after none saved ∧
        WithEvents saved ((formatDocument host n).run s).2 := by
  obtain ⟨cause, saved, hsave, -, hrun⟩ := run_formatDocument_cases hran
  rw [hrun] at hsaves ⊢
  cases cause with
  | some e =>
    obtain ⟨path, formatter, refusal, rfl⟩ := hsaves e rfl
    cases hsave with
    | refused _ hrefused _ =>
      cases hrefused with
      | refused _ hwrite _ => simpa using Session.write_eq_error hwrite
  | none =>
    refine ⟨fun f hfailure => ?_, saved, hsave, announce_onlySays _ _ saved⟩
    rw [Option.elim_none, run_announce_eq, verdict, hfailure] at hsaves
    obtain ⟨path, formatter, refusal, he⟩ := hsaves _ rfl
    injection he with _ _ hcause
    exact ⟨refusal, hcause⟩

/-- A document that is saved if the file is to be written agrees with its file, if it did before. -/
theorem read_of_savedIf {wanted : Prop} {after saved : Session}
    (h : SavedIf n wanted after none saved) (hedits : after.Edits n p)
    (hagrees : after.Agrees n p) : saved.read p = .ok (after.document n).text := by
  cases h with
  | unwanted _ => exact hagrees
  | saved _ hsaved => exact (hsaved.read hedits.path hedits.target hedits.isFile.1).2.2

/-- **A file that is formatted with a save after each formatter has the text of the document all the
time, unless a formatter strays.**  Formatters on disk may put any text into the file, and then
succeed or fail; the other formatters and the sleeps may do whatever they like as long as they leave
the file and the document alone; and no save is refused.  Then the file has the text of the document
at the start of each step, whenever the editor is asked, at the end of the run and after the last
write, if and only if no formatter strays.  In this case the editor never warns of unsaved changes.
A formatter that fails never changes the document. -/
theorem formatFile_agrees_throughout_iff {bench : Workbench} {file : String}
    {language : Option String}
    (hbench : ∀ settings, Action.OnlySays (bench.formatters settings))
    (h : (prepare bench file language).run s = (.ok (some (host, d)), prepared))
    (hmay : host.MayRewrite prepared.documents.length d.path) (hfile : s.HoldsTexts d.path)
    (heach : (resolveRunOptions prepared.app.settings d.language).value.saveAfterEach = true)
    (hsaves : EndsWithSaves ((formatFile bench file language).run s).1) :
    let n := prepared.documents.length
    let ran := runLanguageChain host n (opened d prepared)
    let askings := languageAskings host n (opened d prepared)
    let final := ((formatFile bench file language).run s).2
    ran.1.steps = askings.map Asking.step ∧
      (AgreesThroughout askings n d.path ∧ ran.2.Agrees n d.path ∧
          final.read d.path = .ok (ran.2.document n).text ↔
        ∀ asking ∈ askings, ¬ host.Strays n asking.asked) ∧
      ((∀ asking ∈ askings, ¬ host.Strays n asking.asked) → ∀ asking ∈ askings, ∀ formatter,
        host.chooseFormatter asking.asked.app.settings (asking.asked.document n).language =
          .ok formatter →
        Host.warnAboutUnsaved formatter (asking.asked.document n) asking.asked =
          Host.lookIntoFile formatter (asking.asked.document n) asking.asked) ∧
      ∀ asking ∈ askings, asking.step.failure ≠ none →
        ((host.formatDocument n).run asking.asked).2.document n = asking.named.document n := by
  intro n ran askings final
  obtain ⟨hsetUp, hread, hsaved, htarget, -⟩ := prepare_spec hbench h
  have hdocument : (opened d prepared).document n = d := opened_document d prepared
  have hstart : prepared.read d.path = .ok d.text := (hsetUp.read d.path).trans hread
  have hedits : (opened d prepared).Edits n d.path := by
    refine ⟨?_, ?_, hsetUp.holdsTexts hfile, d.text, hstart⟩
    · rw [hdocument]
    · rw [hdocument, htarget]
  have hagrees : (opened d prepared).Agrees n d.path := by
    rw [Session.Agrees, hdocument]
    exact hstart
  have hsettled : ((opened d prepared).document n).IsSettled := by
    rw [hdocument]
    exact .inr hsaved
  obtain ⟨hvalue, -, hfinal⟩ := run_formatFile h
  rw [hvalue] at hsaves
  have hlanguage : runLanguageChain host n (opened d prepared) = (ran.1, ran.2) := rfl
  obtain ⟨hnone, saved, hsave, hsaid⟩ := formatDocument_of_saves hlanguage hsaves
  have hran := runLanguageChain_agrees_iff hmay (by rw [hdocument]; exact heach) hedits hsettled
    hagrees hnone
  obtain ⟨hsteps, hend, hiff, hasked⟩ := hran
  have hwritten : ran.2.Agrees n d.path → final.read d.path = .ok (ran.2.document n).text := by
    intro hlast
    rw [hfinal d.path, hsaid.read]
    exact read_of_savedIf hsave hend hlast
  refine ⟨hsteps, ⟨fun hall => hiff.1 ⟨hall.1, hall.2.1⟩, fun hstrays => ?_⟩, fun hstrays => ?_,
    fun asking hmem => (hasked asking hmem).2⟩
  · obtain ⟨hall, hlast⟩ := hiff.2 hstrays
    exact ⟨hall, hlast, hwritten hlast⟩
  · intro asking hmem formatter _
    exact Host.warnAboutUnsaved_of_agrees (hasked asking hmem).1 ((hiff.2 hstrays).1 asking hmem).2
      formatter

set_option maxRecDepth 2000 in
/-- A formatter strays: the first one changed the text, which was saved; the second one rewrites the
file and fails; and the third one takes what the second one left, after a warning to save after each
formatter. -/
theorem formatFile_takes_what_strayed :
    let change : Formatter := ⟨"change", false, fun _ => pure (.text "b")⟩
    let stray : Formatter := ⟨"stray", true, fun _ => do
      modify fun s => match s.write ⟨"/a.rs"⟩ "c" with
        | .ok disk => { s with disk }
        | .error _ => s
      throw (.formatterFailed ["no luck"])⟩
    let reread : Formatter := ⟨"reread", true, fun _ => pure .fileUpdated⟩
    let isLogged (text : String) : Event → Bool
      | .logged said _ => said == text
      | _ => false
    let formatters : Registry := .ofFormatters [change, stray, reread]
    let bench : Workbench := ⟨⟨"/"⟩, fun _ => pure formatters, fun _ => pure ()⟩
    let settings := "\x7b\"chainfmt.formatters\": [\"change\", \"stray\", \"reread\"], "
      ++ "\"chainfmt.saveAfterEachFormatter\": true\x7d"
    let s : Session :=
      { disk := .ofFiles [(⟨"/a.rs"⟩, "a"), (⟨"/.chainfmt/settings.json"⟩, settings)]
        outside := some {} }
    let host : Host := ⟨formatters, fun _ => pure ()⟩
    let d : Document := ⟨⟨"/a.rs"⟩, "rust", "a", none, .disk, 1⟩
    let prepared := ((prepare bench "a.rs" (some "rust")).run s).2
    let n := prepared.documents.length
    let askings := languageAskings host n (opened d prepared)
    let result := (formatFile bench "a.rs" (some "rust")).run s
    result.1 = .ok () ∧ result.2.read d.path = .ok "c" ∧
      result.2.history.any (isLogged ("[WARN] Formatter 'reread' reads /a.rs from disk, but it has "
        ++ "unsaved changes. Enable chainfmt.saveAfterEachFormatter for it to see them.")) = true ∧
      askings.map (fun asking => (asking.step.formatter, (asking.asked.document n).text,
        (asking.asked.read d.path).toOption)) =
          [("change", "a", some "a"), ("stray", "b", some "b"), ("reread", "b", some "c")] ∧
      ∃ asking ∈ askings, host.Strays n asking.asked := by
  intro change stray reread isLogged formatters bench settings s host d prepared n askings result
  have hchange : change.MayRewrite n d.path := by
    refine ⟨fun _ request s output s' hformat => ?_, fun hdisk => absurd hdisk (by simp [change])⟩
    obtain ⟨rfl, rfl⟩ := Prod.mk.inj hformat
    exact ⟨by simp, refl _⟩
  have hstray : stray.MayRewrite n d.path := by
    refine ⟨fun hdisk => absurd hdisk (by simp [stray]), fun _ request s output s' hformat => ?_⟩
    obtain ⟨rfl, rfl⟩ := Prod.mk.inj hformat
    change _ ∧ Session.document (match s.write _ _ with | .ok disk => _ | .error _ => _) n = _ ∧
      (_ → Session.IsFile (match s.write _ _ with | .ok disk => _ | .error _ => _) d.path)
    cases hwrite : s.write ⟨"/a.rs"⟩ "c" with
    | ok disk =>
      exact ⟨fun _ h => absurd h (by simp), rfl,
        fun hfile => ⟨hfile.1.write hwrite, _, Session.read_write hfile.1 hwrite⟩⟩
    | error e => exact ⟨fun _ h => absurd h (by simp), rfl, fun hfile => hfile⟩
  have hreread : reread.MayRewrite n d.path := by
    refine ⟨fun hdisk => absurd hdisk (by simp [reread]), fun _ request s output s' hformat => ?_⟩
    obtain ⟨rfl, rfl⟩ := Prod.mk.inj hformat
    exact ⟨fun _ h => (Except.ok.inj h).symm, rfl, id⟩
  have hmay : host.MayRewrite n d.path := by
    refine ⟨⟨fun _ _ h => h.leavesFile, fun _ => Action.leads_pure _⟩, fun id f h => ?_⟩
    have hmem : f ∈ [change, stray, reread] := Registry.mem_of_get? h
    simp only [List.mem_cons, List.not_mem_nil, or_false] at hmem
    rcases hmem with rfl | rfl | rfl
    · exact hchange
    · exact hstray
    · exact hreread
  have hprepared : (prepare bench "a.rs" (some "rust")).run s =
      (.ok (some (host, d)), prepared) := by
    -- Only closed terms are evaluated.
    subst change stray reread isLogged formatters bench settings s host d prepared n askings result
    rfl
  have hran : result.1.isOk = true ∧ (result.2.read d.path).toOption = some "c" ∧
      result.2.history.any (isLogged ("[WARN] Formatter 'reread' reads /a.rs from disk, but it has "
        ++ "unsaved changes. Enable chainfmt.saveAfterEachFormatter for it to see them.")) = true ∧
      askings.map (fun asking => (asking.step.formatter, (asking.asked.document n).text,
        (asking.asked.read d.path).toOption)) =
          [("change", "a", some "a"), ("stray", "b", some "b"), ("reread", "b", some "c")] ∧
      (resolveRunOptions prepared.app.settings d.language).value.saveAfterEach = true := by
    subst change stray reread isLogged formatters bench settings s host d prepared n askings result
    decide +kernel
  obtain ⟨hok, hfinal, hwarned, hasked, heach⟩ := hran
  have hok : result.1 = .ok () := by
    cases hresult : result.1 with
    | ok u => rfl
    | error e => simp [hresult, Except.isOk, Except.toBool] at hok
  have hfinal : result.2.read d.path = .ok "c" := by
    cases hread : result.2.read d.path with
    | ok text => rw [hread] at hfinal; exact congrArg Except.ok (Option.some.inj hfinal)
    | error e => rw [hread] at hfinal; exact absurd hfinal (by simp [Except.toOption])
  refine ⟨hok, hfinal, hwarned, hasked, ?_⟩
  have hbench : ∀ settings, Action.OnlySays (bench.formatters settings) :=
    fun _ => Action.leads_pure _
  have hfile : s.HoldsTexts d.path := rfl
  have hsaves : EndsWithSaves result.1 := fun e he => absurd (hok.symm.trans he) (by simp)
  clear_value change stray reread isLogged formatters bench settings s host d prepared
  obtain ⟨-, hiff, -⟩ :=
    formatFile_agrees_throughout_iff hbench hprepared hmay hfile heach hsaves
  -- The file has not the text of the document when the last formatter is asked.
  have hlast : ("reread", "b", some "c") ∈ askings.map fun asking => (asking.step.formatter,
      (asking.asked.document n).text, (asking.asked.read d.path).toOption) := by
    rw [hasked]
    simp
  obtain ⟨asking, hmem, htells⟩ := List.mem_map.1 hlast
  by_cases hstrays : ∃ asking ∈ askings, host.Strays n asking.asked
  · exact hstrays
  · have hall := hiff.2 fun asking hmem h => hstrays ⟨asking, hmem, h⟩
    have hagrees := (hall.1 asking hmem).2
    simp only [Prod.mk.injEq] at htells
    rw [Session.Agrees, htells.2.1] at hagrees
    rw [hagrees] at htells
    exact absurd htells.2.2 (by simp [Except.toOption])

end FormatChain.Command
