import FormatChain.Proofs.Session.Actions
import FormatChain.Session.Files

/-!
# Two sessions side by side

Two actions match if, started in two sessions that a relation cannot tell apart, they have the same
value and end in two sessions that it cannot tell apart.  The relation may leave out some of what
sessions hold, as long as nothing that an editor reads is left out.

* `Action.Matches`, `Attempt.Matches` : the two actions go side by side.
* `Session.Congruence` : the relations that what an editor does by itself respects.
* `Session.Congruence.readText`, `Session.Congruence.writeText` : the use of files respects them.
-/

namespace FormatChain

variable {α β : Type} {R : Session → Session → Prop}

/-! ## Matching actions -/

namespace Action

/-- From related sessions the two actions have the same value, and lead to related sessions. -/
def Matches (R : Session → Session → Prop) (x y : Action α) : Prop :=
  ∀ s t, R s t → (y t).1 = (x s).1 ∧ R (x s).2 (y t).2

theorem matches_pure (a : α) : Matches R (pure a) (pure a) := fun _ _ h => ⟨rfl, h⟩

/-- Two actions match that go on from the same values in matching ways. Only values that the first
part comes to count. -/
theorem Matches.bind_found {x y : Action α} {f g : α → Action β} (h : Matches R x y)
    (hfg : ∀ s, Matches R (f (x s).1) (g (x s).1)) : Matches R (x >>= f) (y >>= g) := by
  intro s t hst
  obtain ⟨hvalue, hafter⟩ := h s t hst
  rw [bind_apply, bind_apply, hvalue]
  exact hfg s _ _ hafter

theorem Matches.bind {x y : Action α} {f g : α → Action β} (h : Matches R x y)
    (hfg : ∀ a, Matches R (f a) (g a)) : Matches R (x >>= f) (y >>= g) :=
  h.bind_found fun s => hfg (x s).1

/-- Two actions that go on from what they see match if they do for any two related sessions. -/
theorem matches_get_bind {f g : Session → Action α}
    (h : ∀ s t, R s t → Matches R (f s) (g t)) :
    Matches R (get >>= f) (get >>= g) := by
  intro s t hst
  rw [bind_apply, bind_apply, get_apply, get_apply]
  exact h s t hst s t hst

theorem Matches.ite {p : Prop} [Decidable p] {x y x' y' : Action α} (h : Matches R x y)
    (h' : Matches R x' y') : Matches R (if p then x else x') (if p then y else y') := by
  split
  · exact h
  · exact h'

theorem Matches.forM {f g : α → Action PUnit} (h : ∀ a, Matches R (f a) (g a))
    (items : List α) : Matches R (items.forM f) (items.forM g) := by
  induction items with
  | nil => exact matches_pure _
  | cons a rest ih => exact (h a).bind fun _ => ih

/-- Two changes of the session match if they keep related sessions related. -/
theorem matches_modify {f g : Session → Session} (h : ∀ s t, R s t → R (f s) (g t)) :
    Matches R (modify f) (modify g) := fun s t hst => ⟨rfl, h s t hst⟩

end Action

namespace Attempt

/-- From related sessions the two attempts find the same or fail in the same way, and lead to
related sessions. -/
def Matches (R : Session → Session → Prop) (x y : Attempt α) : Prop := Action.Matches R x.run y.run

theorem matches_pure (a : α) : Matches R (pure a) (pure a) := fun _ _ h => ⟨rfl, h⟩

theorem matches_throw (e : Failure) : Matches R (throw e : Attempt α) (throw e) :=
  fun _ _ h => ⟨rfl, h⟩

theorem matches_mk_pure (result : Except Failure α) :
    Matches R (ExceptT.mk (pure result)) (ExceptT.mk (pure result)) := fun _ _ h => ⟨rfl, h⟩

/-- Two attempts that go on from what they found, which need not be the same. -/
theorem matches_ok_bind {a b : α} {f g : α → Attempt β} (h : Matches R (f a) (g b)) :
    Matches R (ExceptT.mk (pure (.ok a)) >>= f) (ExceptT.mk (pure (.ok b)) >>= g) := h

theorem matches_lift {x y : Action α} (h : Action.Matches R x y) :
    Matches R (liftM x : Attempt α) (liftM y) := by
  intro s t hst
  obtain ⟨hvalue, hafter⟩ := h s t hst
  rw [run_lift, run_lift, hvalue]
  exact ⟨rfl, hafter⟩

theorem Matches.bind {x y : Attempt α} {f g : α → Attempt β} (h : Matches R x y)
    (hfg : ∀ a, Matches R (f a) (g a)) : Matches R (x >>= f) (y >>= g) := by
  intro s t hst
  obtain ⟨hvalue, hafter⟩ := h s t hst
  rcases hx : x.run s with ⟨result, s'⟩
  rcases hy : y.run t with ⟨result', t'⟩
  rw [hx, hy] at hvalue hafter
  obtain rfl : result' = result := hvalue
  cases result' with
  | error e =>
    rw [run_bind_error hx, run_bind_error hy]
    exact ⟨rfl, hafter⟩
  | ok a =>
    rw [run_bind_ok hx, run_bind_ok hy]
    exact hfg a s' t' hafter

theorem matches_get_bind {f g : Session → Attempt α}
    (h : ∀ s t, R s t → Matches R (f s) (g t)) : Matches R (get >>= f) (get >>= g) := by
  intro s t hst
  rw [run_bind_ok (run_get s), run_bind_ok (run_get t)]
  exact h s t hst s t hst

theorem Matches.adapt {x y : Attempt α} (h : Matches R x y) (f : Failure → Failure) :
    Matches R (x.adapt f) (y.adapt f) := by
  intro s t hst
  obtain ⟨hvalue, hafter⟩ := h s t hst
  exact ⟨congrArg (Except.mapError f) hvalue, hafter⟩

theorem Matches.forM {f g : α → Attempt PUnit} (h : ∀ a, Matches R (f a) (g a))
    (items : List α) : Matches R (items.forM f) (items.forM g) := by
  induction items with
  | nil => exact matches_pure _
  | cons a rest ih => exact (h a).bind fun _ => ih

end Attempt

/-! ## What an editor cannot tell apart -/

namespace Session

variable {s t : Session}

/-- Related sessions agree in all that an editor reads, and what it does to both of them keeps them
related.  They may differ in the remarks that were made for debugging. -/
structure Congruence (R : Session → Session → Prop) : Prop where
  settings {s t : Session} : R s t → t.app.settings = s.app.settings
  documents {s t : Session} : R s t → t.documents = s.documents
  cancelled {s t : Session} : R s t → t.cancelled = s.cancelled
  disk {s t : Session} : R s t → t.disk = s.disk
  outside {s t : Session} : R s t → t.outside = s.outside
  cwd {s t : Session} : R s t → t.cwd = s.cwd
  remark {s t : Session} (text text' : String) :
    R s t → R (Action.debug text s).2 (Action.debug text' t).2
  event {s t : Session} (e : Event) :
    R s t → R { s with history := e :: s.history } { t with history := e :: t.history }
  setSettings {s t : Session} (settings : Settings) :
    R s t → R { s with app := { s.app with settings } } { t with app := { t.app with settings } }
  setDocuments {s t : Session} (documents : List Document) :
    R s t → R { s with documents } { t with documents }
  setDisk {s t : Session} (disk : Disk) : R s t → R { s with disk } { t with disk }

namespace Congruence

variable (hR : Congruence R)
include hR

theorem document (h : R s t) (n : Nat) : t.document n = s.document n := by
  rw [Session.document, hR.documents h, Session.document]

theorem matches_settings : Action.Matches R Action.settings Action.settings :=
  fun _ _ h => ⟨hR.settings h, h⟩

theorem matches_document (n : Nat) : Action.Matches R (Action.document n) (Action.document n) :=
  fun _ _ h => ⟨hR.document h n, h⟩

theorem matches_record (e : Event) : Action.Matches R (Action.record e) (Action.record e) :=
  fun _ _ h => ⟨rfl, hR.event e h⟩

theorem matches_debug (text text' : String) :
    Action.Matches R (Action.debug text) (Action.debug text') :=
  fun _ _ h => ⟨rfl, hR.remark text text' h⟩

theorem matches_warn (text : String) : Action.Matches R (Action.warn text) (Action.warn text) :=
  hR.matches_record _

theorem matches_error (text : String) : Action.Matches R (Action.error text) (Action.error text) :=
  hR.matches_record _

theorem matches_notify (kind : NotificationKind) (text : String) :
    Action.Matches R (Action.notify kind text) (Action.notify kind text) :=
  hR.matches_record _

theorem matches_note : ∀ n : Note, Action.Matches R (Action.note n) (Action.note n)
  | .debug text => hR.matches_debug text text
  | .warn text => hR.matches_warn text
  | .error text => hR.matches_error text
  | .info _ => hR.matches_record _
  | .notify kind text => hR.matches_notify kind text

/-- Whatever the notes of a computation are, passing them on keeps related sessions related. -/
theorem matches_tell (x : Noted α) : Action.Matches R (Action.tell x) (Action.tell x) :=
  (Action.Matches.forM hR.matches_note x.notes).bind fun _ => Action.matches_pure _

theorem matches_setSettings (settings : Settings) :
    Action.Matches R (Action.setSettings settings) (Action.setSettings settings) :=
  fun _ _ h => ⟨rfl, hR.setSettings settings h⟩

theorem matches_changeDocument (n : Nat) (f : Document → Document) :
    Action.Matches R (Action.changeDocument n f) (Action.changeDocument n f) := by
  intro s t h
  rw [Action.changeDocument_apply, Action.changeDocument_apply, hR.document h, putDocument,
    putDocument, hR.documents h]
  exact ⟨rfl, hR.setDocuments _ h⟩

/-! ### Files -/

theorem inMemory (h : R s t) : t.inMemory = s.inMemory := by
  rw [Session.inMemory, Session.inMemory, hR.outside h]

theorem readMemory (h : R s t) (p : Path) : t.readMemory p = s.readMemory p := by
  rw [Session.readMemory, Session.readMemory, hR.disk h]

theorem readMachine (h : R s t) (p : Path) : t.readMachine p = s.readMachine p := by
  rw [Session.readMachine, Session.readMachine, hR.disk h, hR.cwd h]

theorem pathExists (h : R s t) (p : Path) : t.pathExists p = s.pathExists p := by
  rw [Session.pathExists, Session.pathExists, hR.inMemory h, hR.disk h, hR.cwd h]

theorem isReadOnly (h : R s t) (p : Path) : t.isReadOnly p = s.isReadOnly p := by
  rw [Session.isReadOnly, Session.isReadOnly, hR.inMemory h, hR.disk h, hR.cwd h]

theorem writeMemory (h : R s t) (p : Path) (text : String) :
    t.writeMemory p text = s.writeMemory p text := by
  rw [Session.writeMemory, Session.writeMemory, hR.isReadOnly h, hR.disk h]

theorem writeMachine (h : R s t) (p : Path) (text : String) :
    t.writeMachine p text = s.writeMachine p text := by
  rw [Session.writeMachine, Session.writeMachine, hR.disk h, hR.cwd h]

theorem readText (p : Path) : Attempt.Matches R (Attempt.readText p) (Attempt.readText p) := by
  refine Attempt.matches_get_bind fun s t h => ?_
  rw [hR.inMemory h, hR.readMemory h, hR.readMachine h]
  split
  · exact Attempt.matches_mk_pure _
  · exact (Attempt.matches_lift (hR.matches_debug _ _)).bind fun _ => Attempt.matches_mk_pure _

theorem writeText (p : Path) (text : String) :
    Attempt.Matches R (Attempt.writeText p text) (Attempt.writeText p text) := by
  refine Attempt.matches_get_bind fun s t h => ?_
  have hannounce : Attempt.Matches R (liftM (Action.debug s!"Writing file: {p.text}"))
      (liftM (Action.debug s!"Writing file: {p.text}")) :=
    Attempt.matches_lift (hR.matches_debug _ _)
  rw [hR.inMemory h, hR.writeMemory h, hR.writeMachine h]
  generalize (if s.inMemory = true then s.writeMemory p text else s.writeMachine p text) = written
  cases written with
  | error e =>
    dsimp only
    split
    · exact Attempt.matches_throw e
    · exact hannounce.bind fun _ => Attempt.matches_throw e
  | ok disk =>
    have hput : Action.Matches R (modify fun s => { s with disk })
        (modify fun s => { s with disk }) := fun _ _ h => ⟨rfl, hR.setDisk disk h⟩
    have hwrites := (Attempt.matches_lift hput).bind fun _ =>
      Attempt.matches_lift (hR.matches_record (.wrote p text))
    dsimp only
    split
    · exact hwrites
    · exact hannounce.bind fun _ => hwrites

end Congruence

end Session

end FormatChain
