import FormatChain.Proofs.Session.Lockstep
import FormatChain.Session.Application

/-!
# Held guards

Each application has a guard: the one that works, and those that wait for it.  Two sessions agree
while the guards are in a certain state if they are in it and are the same up to remarks for
debugging.

* `Session.unremarked` : a session without remarks.
* `Session.AgreeWhile`, `Session.agreeWhile_congruence` : an editor cannot tell the two apart.
* `Guard.HeldAt` : the guard of the application so many places out is held.
* `Application.within_matches`, `Application.outer_matches` : from one application to another.
-/

namespace FormatChain

variable {α : Type} {s t : Session}

/-! ## Remarks -/

/-- A remark for debugging. -/
def Event.isRemark : Event → Bool
  | .logged text _ => "[DEBUG] ".toList.isPrefixOf text.toList
  | _ => false

namespace Session

/-- The session without the remarks that were made for debugging. -/
def unremarked (s : Session) : Session :=
  { s with history := s.history.filter fun e => !e.isRemark }

theorem unremarked_event (s : Session) (e : Event) :
    { s with history := e :: s.history }.unremarked =
      if e.isRemark then s.unremarked
      else { s.unremarked with history := e :: s.unremarked.history } := by
  cases h : e.isRemark with
  | true => simp [unremarked, h]
  | false => simp [unremarked, h]

theorem unremarked_debug (s : Session) (text : String) :
    (Action.debug text s).2.unremarked = s.unremarked := by
  have hremark : (Event.logged ("[DEBUG] " ++ text) Settings.programName).isRemark = true := by
    rw [Event.isRemark, String.toList_append, List.isPrefixOf_iff_prefix]
    exact List.prefix_append _ _
  rw [Action.debug, Action.bind_apply, Action.get_apply]
  split
  · change { s with history := _ :: s.history }.unremarked = _
    rw [unremarked_event, if_pos hremark]
  · rfl

/-! ## Guards -/

/-- The guard of the application that works, and then those of the ones that wait. -/
def guards (s : Session) : List Guard := s.app.guard :: s.waiting.map (·.guard)

theorem WithEvents.guards (h : WithEvents s t) : t.guards = s.guards := by
  obtain ⟨_, rfl⟩ := h
  rfl

/-- The sessions are the same up to remarks, and their guards are in a certain state. -/
def AgreeWhile (P : List Guard → Prop) (s t : Session) : Prop :=
  t.unremarked = s.unremarked ∧ P s.guards

/-- **An editor cannot tell remarks.** -/
theorem agreeWhile_congruence (P : List Guard → Prop) : Congruence (AgreeWhile P) where
  settings h := congrArg (fun s => s.app.settings) h.1
  documents h := congrArg (fun s => s.documents) h.1
  cancelled h := congrArg (fun s => s.cancelled) h.1
  disk h := congrArg (fun s => s.disk) h.1
  outside h := congrArg (fun s => s.outside) h.1
  cwd h := congrArg (fun s => s.cwd) h.1
  remark {s t} text text' h := by
    refine ⟨?_, ?_⟩
    · rw [unremarked_debug, unremarked_debug]
      exact h.1
    · rw [(Action.debug_onlySays text s).guards]
      exact h.2
  event {s t} e h := by
    refine ⟨?_, h.2⟩
    rw [unremarked_event, unremarked_event, h.1]
  setSettings settings h :=
    ⟨congrArg (fun s => { s with app := { s.app with settings } }) h.1, h.2⟩
  setDocuments documents h := ⟨congrArg (fun s => { s with documents }) h.1, h.2⟩
  setDisk disk h := ⟨congrArg (fun s => { s with disk }) h.1, h.2⟩

end Session

/-- The guard of the application so many places out is held. -/
def Guard.HeldAt (depth : Nat) (guards : List Guard) : Prop := guards[depth]? = some ⟨true⟩

theorem Session.held_of_heldAt_zero (h : Guard.HeldAt 0 s.guards) : s.app.guard.held = true := by
  have hguard : some s.app.guard = some ⟨true⟩ := h
  rw [Option.some.inj hguard]

theorem Session.heldAt_zero_of_held (h : s.app.guard.held = true) : Guard.HeldAt 0 s.guards :=
  congrArg (fun held => some (Guard.mk held)) h

/-! ## From one application to another -/

namespace Application

open Session (AgreeWhile)
open Guard (HeldAt)

/-- The guard of one that waits is one place further in once the one that works has ended. -/
theorem heldAt_left {depth : Nat} (h : HeldAt (depth + 1) s.guards) :
    HeldAt depth
      { s with app := s.waiting.headD {}, waiting := s.waiting.drop 1 }.guards := by
  change (s.waiting.map (·.guard))[depth]? = _ at h
  change ((s.waiting.headD {}).guard :: (s.waiting.drop 1).map (·.guard))[depth]? = _
  cases hwaiting : s.waiting with
  | nil => simp [hwaiting] at h
  | cons app others =>
    rw [hwaiting] at h
    exact h

/-- While another application works, the guard is one place further out. -/
theorem within_matches {depth : Nat} {x y : Action α}
    (h : Action.Matches (AgreeWhile (HeldAt (depth + 1))) x y) :
    Action.Matches (AgreeWhile (HeldAt depth)) (within x) (within y) := by
  intro s t ⟨hsame, hheld⟩
  have hentered : AgreeWhile (HeldAt (depth + 1))
      { s with app := {}, waiting := s.app :: s.waiting }
      { t with app := {}, waiting := t.app :: t.waiting } :=
    ⟨congrArg (fun s => { s with app := {}, waiting := s.app :: s.waiting }) hsame, hheld⟩
  obtain ⟨hvalue, hleft, hstill⟩ := h _ _ hentered
  exact ⟨hvalue, congrArg (fun s : Session =>
    { s with app := s.waiting.headD {}, waiting := s.waiting.drop 1 }) hleft, heldAt_left hstill⟩

theorem outer_apply {app : App} {others : List App} (h : s.waiting = app :: others)
    (x : Action Unit) :
    outer x s =
      let after := (x { s with app, waiting := others }).2
      ((), { after with app := s.app, waiting := after.app :: after.waiting }) := by
  rw [outer, Action.bind_apply, Action.get_apply, Action.bind_apply, Action.get_apply]
  simp only [h]
  rfl

/-- While the application works that waited, the guard is one place further in. -/
theorem outer_matches {depth : Nat} {x y : Action Unit}
    (h : Action.Matches (AgreeWhile (HeldAt depth)) x y) :
    Action.Matches (AgreeWhile (HeldAt (depth + 1))) (outer x) (outer y) := by
  intro s t ⟨hsame, hheld⟩
  have hwaiting : t.waiting = s.waiting := congrArg (fun s => s.waiting) hsame
  have happ : t.app = s.app := congrArg (fun s => s.app) hsame
  change (s.waiting.map (·.guard))[depth]? = _ at hheld
  cases hs : s.waiting with
  | nil => simp [hs] at hheld
  | cons app others =>
    rw [hs] at hheld
    have hentered : AgreeWhile (HeldAt depth) { s with app, waiting := others }
        { t with app, waiting := others } :=
      ⟨congrArg (fun s => { s with app, waiting := others }) hsame, hheld⟩
    obtain ⟨-, hleft, hstill⟩ := h _ _ hentered
    rw [outer_apply hs, outer_apply (hwaiting.trans hs), happ]
    exact ⟨rfl, congrArg (fun u : Session =>
      { u with app := s.app, waiting := u.app :: u.waiting }) hleft, hstill⟩

end Application

end FormatChain
