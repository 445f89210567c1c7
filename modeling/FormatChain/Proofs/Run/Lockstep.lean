import FormatChain.Proofs.Run.Stages
import FormatChain.Proofs.Session.Lockstep

/-!
# Two runs side by side

Two editors match if their formatters do, and what goes on meanwhile.  Runs of matching editors
match: a run passes on whatever the formatters and those who are active meanwhile cannot tell apart,
and adds nothing to it but its remarks.

* `Formatter.Matches`, `Host.Matches`, `Course.Matches` : what has to match.
* `Host.Matches.formatDocument`, `Session.Congruence.saveDocument` : the editor's two doings.
* `Host.Matches.poll` : waiting for a formatter to become active.
* `Host.Matches.runSteps`, `Host.Matches.upToRestore`, `Host.fromRestore_matches` : the steps of a
  run, and its two parts.
* `Host.Matches.runIfNeeded` : the run.
-/

namespace FormatChain

variable {R : Session → Session → Prop}

/-- Two formatters of the same name and kind that do matching things. -/
structure Formatter.Matches (R : Session → Session → Prop) (f f' : Formatter) : Prop where
  id : f'.id = f.id
  onDisk : f'.onDisk = f.onDisk
  format (request : FormatRequest) : Attempt.Matches R (f.format request) (f'.format request)

/-- Two ways of confirming activations that match for each of them. -/
def Confirmer.Matches (R : Session → Session → Prop) (confirm confirm' : Confirmer) : Prop :=
  ∀ slot id policy, Action.Matches R (confirm slot id policy) (confirm' slot id policy)

/-- Two editors that have matching formatters under the same names, and let matching things go
on. -/
structure Host.Matches (R : Session → Session → Prop) (host host' : Host) : Prop where
  meanwhile (millis : Nat) : Action.Matches R (host.meanwhile millis) (host'.meanwhile millis)
  formatters (id : String) :
    Option.Rel (Formatter.Matches R) (host.formatters.get? id) (host'.formatters.get? id)

/-- What is common to the steps of two runs on a document, up to the number of formatters, which
only remarks tell. -/
structure Course.Matches (R : Session → Session → Prop) (course course' : Course) : Prop where
  document : course'.document = course.document
  options : course'.options = course.options
  confirm : Confirmer.Matches R course.confirm course'.confirm

namespace Host

open Session (Congruence)

variable {host host' : Host} {course course' : Course} {n : Nat}

/-! ## What does not depend on the editor -/

theorem see_matches (hR : Congruence R) (slot : Slot) (id : String) (before : Nat) :
    Action.Matches R (see slot id before) (see slot id before) := by
  refine hR.matches_settings.bind fun settings => ?_
  refine Action.Matches.ite ?_ (Action.matches_pure _)
  exact (hR.matches_debug _ _).bind fun _ => Action.matches_pure _

theorem warnAboutUnsaved_matches (hR : Congruence R) {f f' : Formatter} (h : f.Matches R f')
    (d : Document) : Action.Matches R (warnAboutUnsaved f d) (warnAboutUnsaved f' d) := by
  rw [warnAboutUnsaved, warnAboutUnsaved, h.onDisk, h.id]
  refine Action.Matches.ite ?_ (Action.matches_pure _)
  refine Action.Matches.bind (hR.readText d.path) fun seen => ?_
  exact Action.Matches.ite (Action.matches_pure _) (hR.matches_warn _)

theorem takeOutput_matches (hR : Congruence R) (n : Nat) (output : FormatOutput) :
    Attempt.Matches R (takeOutput n output) (takeOutput n output) := by
  cases output with
  | unchanged => exact Attempt.matches_pure _
  | text text => exact Attempt.matches_lift (hR.matches_changeDocument n _)
  | fileUpdated =>
    refine (Attempt.matches_lift (hR.matches_document n)).bind fun d => ?_
    refine (hR.readText d.path).bind fun text => ?_
    exact Attempt.matches_lift (hR.matches_changeDocument n _)

theorem saveDocument_matches (hR : Congruence R) (n : Nat) :
    Attempt.Matches R (saveDocument n) (saveDocument n) := by
  refine (Attempt.matches_lift (hR.matches_document n)).bind fun d => ?_
  have hfinish : Attempt.Matches R
      (do Action.changeDocument n Document.markSaved; Action.debug s!"Saved {d.path.text}")
      (do Action.changeDocument n Document.markSaved; Action.debug s!"Saved {d.path.text}") :=
    (Attempt.matches_lift (hR.matches_changeDocument n _)).bind fun _ =>
      Attempt.matches_lift (hR.matches_debug _ _)
  dsimp only
  split
  · exact (hR.writeText d.path d.text).bind fun _ => hfinish
  · exact hfinish

theorem activate_matches (hR : Congruence R) (slot : Slot) (id : String) :
    Action.Matches R (activate slot id) (activate slot id) := by
  refine hR.matches_settings.bind fun settings => ?_
  cases slot.activate id settings with
  | error e => exact (hR.matches_error _).bind fun _ => Action.matches_pure _
  | ok named => exact (hR.matches_setSettings _).bind fun _ => Action.matches_pure _

theorem restore_matches (hR : Congruence R) (slot : Slot) :
    Action.Matches R (restore slot) (restore slot) := by
  refine hR.matches_settings.bind fun settings => ?_
  cases slot.restore settings with
  | error e => exact hR.matches_error _
  | ok restored => exact (hR.matches_setSettings _).bind fun _ => hR.matches_debug _ _

theorem saveAfterStep_matches (hR : Congruence R) (h : course.Matches R course') (id : String) :
    Action.Matches R (saveAfterStep course id) (saveAfterStep course' id) := by
  rw [saveAfterStep, saveAfterStep, h.options, h.document]
  refine (hR.matches_document _).bind fun d => ?_
  refine Action.Matches.ite ?_ (Action.matches_pure _)
  refine Action.Matches.bind (saveDocument_matches hR _) fun result => ?_
  cases result with
  | ok u => exact Action.matches_pure _
  | error cause => exact (hR.matches_error _).bind fun _ => Action.matches_pure _

theorem saveAfterChain_matches (hR : Congruence R) (h : course.Matches R course')
    (failure : Option RunFailure) :
    Action.Matches R (saveAfterChain course failure) (saveAfterChain course' failure) := by
  rw [saveAfterChain, saveAfterChain, h.options, h.document]
  refine (hR.matches_document _).bind fun d => ?_
  refine Action.Matches.ite ?_ (Action.matches_pure _)
  refine Action.Matches.bind (saveDocument_matches hR _) fun result => ?_
  cases result with
  | ok u => exact Action.matches_pure _
  | error cause => exact (hR.matches_error _).bind fun _ => Action.matches_pure _

theorem finalEdit_matches (hR : Congruence R) (h : course.Matches R course') (original : String) :
    Action.Matches R (finalEdit course original) (finalEdit course' original) := by
  rw [finalEdit, finalEdit, h.document]
  refine (hR.matches_document _).bind fun d => ?_
  refine Action.Matches.ite ?_ (Action.matches_pure _)
  exact (hR.matches_debug _ _).bind fun _ => Action.matches_pure _

theorem fromRestore_matches (hR : Congruence R) (h : course.Matches R course') (original : String)
    (stepping : Stepping) :
    Action.Matches R (fromRestore course original stepping)
      (fromRestore course' original stepping) :=
  (restore_matches hR _).bind fun _ => (saveAfterChain_matches hR h _).bind fun _ =>
    (finalEdit_matches hR h original).bind fun _ => Action.matches_pure _

namespace Matches

variable (hR : Congruence R) (h : host.Matches R host')
include h

/-! ## Formatting -/

/-- Matching editors choose matching formatters, or none for the same reason. -/
theorem chooseFormatter (settings : Settings) (language : String) :
    (∃ e, host.chooseFormatter settings language = .error e ∧
      host'.chooseFormatter settings language = .error e) ∨
    ∃ f f', host.chooseFormatter settings language = .ok f ∧
      host'.chooseFormatter settings language = .ok f' ∧ f.Matches R f' := by
  rw [Host.chooseFormatter, Host.chooseFormatter]
  cases activeFormatter settings language with
  | error e => exact .inl ⟨e, rfl, rfl⟩
  | ok id =>
    have hrel := h.formatters id
    simp only [bind, Except.bind]
    cases hfound : host.formatters.get? id <;> cases hfound' : host'.formatters.get? id <;>
      rw [hfound, hfound'] at hrel
    · exact .inl ⟨_, rfl, rfl⟩
    · cases hrel
    · cases hrel
    · cases hrel with
      | some hmatches => exact .inr ⟨_, _, rfl, rfl, hmatches⟩

include hR

theorem sleep (millis : Nat) : Action.Matches R (host.sleep millis) (host'.sleep millis) :=
  (hR.matches_record _).bind fun _ => h.meanwhile millis

theorem formatDocument (n : Nat) :
    Attempt.Matches R (host.formatDocument n) (host'.formatDocument n) := by
  refine (Attempt.matches_lift (hR.matches_document n)).bind fun d => ?_
  refine (Attempt.matches_lift hR.matches_settings).bind fun settings => ?_
  rcases h.chooseFormatter settings d.language with ⟨e, hf, hf'⟩ | ⟨f, f', hf, hf', hmatches⟩
  · rw [hf, hf']
    exact fun s t hst => ⟨rfl, hst⟩
  · rw [hf, hf']
    refine Attempt.matches_ok_bind ?_
    refine (Attempt.matches_lift (warnAboutUnsaved_matches hR hmatches d)).bind fun _ => ?_
    refine (hmatches.format _).bind fun output => ?_
    refine (takeOutput_matches hR n output).bind fun _ => ?_
    split
    · exact Attempt.matches_lift (hR.matches_debug _ _)
    · exact (Attempt.matches_lift (hR.matches_document n)).bind fun _ =>
        Attempt.matches_lift (hR.matches_debug _ _)

/-! ## Waiting -/

theorem look (slot : Slot) (id : String) (interval before more : Nat) :
    Action.Matches R (host.look slot id interval before more)
      (host'.look slot id interval before more) := by
  induction more generalizing before with
  | zero => exact see_matches hR slot id before
  | succ more ih =>
    refine (see_matches hR slot id before).bind fun seen => ?_
    refine Action.Matches.ite (Action.matches_pure _) ?_
    exact (h.sleep hR interval).bind fun _ => ih (before + 1)

theorem poll : Confirmer.Matches R host.poll host'.poll := by
  rintro slot id ⟨_ | more, interval⟩
  · exact Action.matches_pure _
  · exact h.look hR slot id interval 0 more

/-! ## Steps and runs -/

variable (hcourse : course.Matches R course')
include hcourse

theorem concludeStep (index : Nat) (id : String) (before : Fingerprint) (confirmed : Bool)
    (result : Except Failure Unit) :
    Action.Matches R (host.concludeStep course index id before confirmed result)
      (host'.concludeStep course' index id before confirmed result) := by
  rw [Host.concludeStep, Host.concludeStep, hcourse.options, hcourse.document]
  refine (h.sleep hR _).bind fun _ => ?_
  refine (hR.matches_document _).bind fun d => ?_
  refine (hR.matches_debug _ _).bind fun _ => ?_
  cases result with
  | ok u => exact Action.matches_pure _
  | error failure => exact (hR.matches_error _).bind fun _ => Action.matches_pure _

theorem runStep (slot : Slot) (index : Nat) (id : String) (before : Fingerprint) :
    Action.Matches R (host.runStep course slot index id before)
      (host'.runStep course' slot index id before) := by
  rw [runStep_eq_concludeStep, runStep_eq_concludeStep, hcourse.options, hcourse.document]
  refine (h.sleep hR _).bind fun _ => ?_
  refine (hcourse.confirm slot id _).bind fun confirmed => ?_
  have hafter := Action.Matches.bind (h.formatDocument hR course.document)
    (h.concludeStep hR hcourse index id before confirmed)
  cases confirmed with
  | true => exact hafter
  | false => exact (hR.matches_warn _).bind fun _ => hafter

/-- The steps of two runs match, and so do the slots that they leave. -/
theorem runSteps (ids : List String) (index : Nat) (slot : Slot) (before : Fingerprint) :
    Action.Matches R (host.runSteps course index ids slot before)
      (host'.runSteps course' index ids slot before) := by
  induction ids generalizing index slot before with
  | nil => exact Action.matches_pure _
  | cons id rest ih =>
    refine Action.matches_get_bind fun s t hst => ?_
    rw [hR.cancelled hst]
    refine Action.Matches.ite ?_ ?_
    · exact (hR.matches_debug _ _).bind fun _ => Action.matches_pure _
    · refine (hR.matches_debug _ _).bind fun _ => ?_
      refine (activate_matches hR slot id).bind fun named => ?_
      cases named with
      | error cause => exact Action.matches_pure _
      | ok slot =>
        refine (h.runStep hR hcourse slot index id before).bind fun stepped => ?_
        refine (saveAfterStep_matches hR hcourse id).bind fun failure => ?_
        cases failure with
        | some failure => exact Action.matches_pure _
        | none => exact (ih (index + 1) slot stepped.2).bind fun _ => Action.matches_pure _

theorem upToRestore (chain : Chain) (slot : Slot) :
    Action.Matches R (host.upToRestore course chain slot)
      (host'.upToRestore course' chain slot) := by
  rw [Host.upToRestore, Host.upToRestore, hcourse.document]
  refine (hR.matches_document _).bind fun d => ?_
  exact (hR.matches_debug _ _).bind fun _ => h.runSteps hR hcourse chain.ids 0 slot _

theorem runChain (chain : Chain) :
    Action.Matches R (host.runChain course chain) (host'.runChain course' chain) := by
  rw [Host.runChain, Host.runChain, hcourse.document]
  refine (hR.matches_document _).bind fun d => ?_
  refine hR.matches_settings.bind fun settings => ?_
  cases Slot.acquire settings d.language with
  | error e => exact (hR.matches_error _).bind fun _ => Action.matches_pure _
  | ok slot =>
    refine (hR.matches_debug _ _).bind fun _ => ?_
    refine (h.runSteps hR hcourse chain.ids 0 slot _).bind fun stepping => ?_
    refine (restore_matches hR stepping.slot).bind fun _ => ?_
    refine (saveAfterChain_matches hR hcourse stepping.failure).bind fun failure => ?_
    exact (finalEdit_matches hR hcourse d.text).bind fun edit => Action.matches_pure _

/-- **Runs of matching editors match.** -/
theorem runIfNeeded (chain : Chain) :
    Action.Matches R (host.runIfNeeded course chain) (host'.runIfNeeded course' chain) := by
  rw [Host.runIfNeeded, Host.runIfNeeded, hcourse.document]
  refine (hR.matches_document _).bind fun d => ?_
  refine Action.Matches.ite ((hR.matches_debug _ _).bind fun _ => Action.matches_pure _) ?_
  refine Action.Matches.ite ((hR.matches_debug _ _).bind fun _ => Action.matches_pure _) ?_
  exact h.runChain hR hcourse chain

end Matches

end Host

end FormatChain
