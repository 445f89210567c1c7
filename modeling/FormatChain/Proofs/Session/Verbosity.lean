import FormatChain.Proofs.Session.Guards
import FormatChain.Workspace.Load

/-!
# Whether remarks are made

A session has a flag that asks for remarks for debugging, and loading settings may raise it.  Two
sessions are the same but for remarks if they only differ in the flag and in the remarks made so
far.  What does not look at the flag keeps them so, and loading settings does although it looks.

* `Session.quiet`, `Session.SameButRemarks` : what is left without remarks, and the relation.
* `Session.sameButRemarks_congruence` : an editor cannot tell the two apart.
* `Workspace.loadSettings_sameButRemarks` : neither can the settings that are loaded.
-/

namespace FormatChain

variable {s t : Session}

namespace Session

/-- The session without remarks and without the flag that asks for them. All other events, messages
in the log among them, are kept in their order. -/
def quiet (s : Session) : Session := { s.unremarked with verbose := false }

/-- The sessions differ at most in remarks, and in whether they are made. -/
def SameButRemarks (s t : Session) : Prop := t.quiet = s.quiet

theorem quiet_debug (s : Session) (text : String) :
    (Action.debug text s).2.quiet = s.quiet :=
  congrArg (fun s : Session => { s with verbose := false }) (unremarked_debug s text)

theorem quiet_event (s : Session) (e : Event) :
    { s with history := e :: s.history }.quiet =
      if e.isRemark then s.quiet else { s.quiet with history := e :: s.quiet.history } := by
  change { { s with history := e :: s.history }.unremarked with verbose := false } = _
  rw [unremarked_event]
  split
  · rfl
  · rfl

/-- A change that has nothing to do with remarks keeps sessions the same but for them. -/
theorem SameButRemarks.map (h : SameButRemarks s t) (f : Session → Session)
    (hf : ∀ s, (f s).quiet = f s.quiet) : SameButRemarks (f s) (f t) := by
  have hquiet : t.quiet = s.quiet := h
  rw [SameButRemarks, hf, hf, hquiet]

/-- **An editor cannot tell whether remarks are made.** -/
theorem sameButRemarks_congruence : Congruence SameButRemarks where
  settings h := congrArg (fun s => s.app.settings) h
  documents h := congrArg (fun s => s.documents) h
  cancelled h := congrArg (fun s => s.cancelled) h
  disk h := congrArg (fun s => s.disk) h
  outside h := congrArg (fun s => s.outside) h
  cwd h := congrArg (fun s => s.cwd) h
  remark {s t} text text' h := by
    rw [SameButRemarks, quiet_debug, quiet_debug]
    exact h
  event {s t} e h := by
    have hquiet : t.quiet = s.quiet := h
    rw [SameButRemarks, quiet_event, quiet_event, hquiet]
  setSettings settings h := h.map (fun s => { s with app := { s.app with settings } }) fun _ => rfl
  setDocuments documents h := h.map (fun s => { s with documents }) fun _ => rfl
  setDisk disk h := h.map (fun s => { s with disk }) fun _ => rfl

theorem SameButRemarks.guard (h : SameButRemarks s t) : t.app.guard = s.app.guard :=
  congrArg (fun s => s.app.guard) h

theorem SameButRemarks.setGuard (h : SameButRemarks s t) (guard : Guard) :
    SameButRemarks { s with app := { s.app with guard } } { t with app := { t.app with guard } } :=
  h.map (fun s => { s with app := { s.app with guard } }) fun _ => rfl

theorem SameButRemarks.globalSettings (h : SameButRemarks s t) :
    t.globalSettings = s.globalSettings :=
  congrArg (fun s => s.globalSettings) h

theorem SameButRemarks.input (h : SameButRemarks s t) : t.input = s.input :=
  congrArg (fun s => s.input) h

end Session

open Session (SameButRemarks sameButRemarks_congruence)
open Settings (Layer PerScope Scope)

/-! ## The text that comes in -/

theorem Attempt.takeInput_sameButRemarks : Attempt.Matches SameButRemarks takeInput takeInput := by
  refine Attempt.matches_get_bind fun s t h => ?_
  rw [h.input]
  split
  · have htake : Action.Matches SameButRemarks (modify fun s => { s with input := none })
        (modify fun s => { s with input := none }) :=
      Action.matches_modify fun _ _ h => h.map (fun s => { s with input := none }) fun _ => rfl
    exact (Attempt.matches_lift htake).bind fun _ => Attempt.matches_pure _
  · exact Attempt.matches_throw _

/-! ## Loading settings -/

namespace Workspace

theorem resolvePath_sameButRemarks (argument : String) :
    Action.Matches SameButRemarks (resolvePath argument) (resolvePath argument) := by
  refine Action.matches_get_bind fun s t h => ?_
  rw [sameButRemarks_congruence.cwd h]
  exact Action.matches_pure _

theorem discover_sameButRemarks (root : Path) (document : Option Path) :
    Action.Matches SameButRemarks (discover root document) (discover root document) := by
  refine Action.matches_get_bind fun s t h => ?_
  have hthere : t.pathExists = s.pathExists := funext (sameButRemarks_congruence.pathExists h)
  rw [h.globalSettings, hthere]
  exact Action.matches_pure _

theorem parseLayer_sameButRemarks (scope : Scope) (path : Path) (text : String) :
    Attempt.Matches SameButRemarks (parseLayer scope path text) (parseLayer scope path text) := by
  unfold parseLayer
  split
  · exact Attempt.matches_pure _
  · have hfail : ∀ e, Attempt.Matches SameButRemarks (throw e : Attempt Layer) (throw e) :=
      fun e => Attempt.matches_throw e
    split
    · have hcollapse : Action.Matches SameButRemarks (modify fun s => { s with collapsed := true })
          (modify fun s => { s with collapsed := true }) :=
        Action.matches_modify fun _ _ h =>
          h.map (fun s => { s with collapsed := true }) fun _ => rfl
      exact (Attempt.matches_lift hcollapse).bind fun _ => hfail _
    · exact hfail _

theorem loadLayer_sameButRemarks (scope : Scope) (path : Path) :
    Attempt.Matches SameButRemarks (loadLayer scope path) (loadLayer scope path) := by
  have hR := sameButRemarks_congruence
  refine Attempt.matches_get_bind fun s t h => ?_
  rw [hR.pathExists h]
  split
  · refine (Attempt.matches_lift (hR.matches_debug _ _)).bind fun _ => ?_
    refine ((hR.readText path).adapt _).bind fun text => ?_
    refine (parseLayer_sameButRemarks scope path text).bind fun layer => ?_
    refine Attempt.matches_get_bind fun s t h => ?_
    rw [hR.isReadOnly h]
    exact Attempt.matches_pure _
  · exact Attempt.matches_pure _

theorem loadFrom_sameButRemarks (files : List (Scope × Path)) (layers : PerScope Layer) :
    Attempt.Matches SameButRemarks (loadFrom layers files) (loadFrom layers files) := by
  induction files generalizing layers with
  | nil => exact Attempt.matches_pure _
  | cons file rest ih =>
    exact (loadLayer_sameButRemarks file.1 file.2).bind fun layer => ih _

/-- Whether remarks are made already decides whether a remark is made of it, and no more. -/
theorem debugIfAsked_sameButRemarks (settings : Settings) :
    Action.Matches SameButRemarks (debugIfAsked settings) (debugIfAsked settings) := by
  refine (sameButRemarks_congruence.matches_tell _).bind fun asked => ?_
  -- The two sessions may take different branches, none of which leaves more than remarks.
  have hquiet : ∀ s : Session, SameButRemarks s
      ((do if asked = some true && !(← get).verbose then
            Action.setVerbose true
            Action.debug s!"Debug output enabled by {Settings.Key.debug}." : Action Unit) s).2 := by
    intro s
    rw [Action.bind_apply, Action.get_apply]
    split
    · exact Session.quiet_debug { s with verbose := true } _
    · rfl
  exact fun s t h => ⟨rfl, (hquiet t).trans (Eq.trans h (hquiet s).symm)⟩

/-- **Loading settings finds the same whether or not remarks are made,** although it looks whether
they are, and may start to make them. -/
theorem loadSettings_sameButRemarks (root : Path) (document : Option Path) :
    Attempt.Matches SameButRemarks (loadSettings root document) (loadSettings root document) := by
  have hR := sameButRemarks_congruence
  refine (Attempt.matches_lift (discover_sameButRemarks root document)).bind fun places => ?_
  refine (loadFrom_sameButRemarks places.toList _).bind fun layers => ?_
  refine (Attempt.matches_lift (hR.matches_debug _ _)).bind fun _ => ?_
  exact (Attempt.matches_lift (debugIfAsked_sameButRemarks _)).bind fun _ =>
    Attempt.matches_pure _

end Workspace

end FormatChain
