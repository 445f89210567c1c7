import FormatChain.Session.Basic
import Mathlib.Logic.Relation
import Mathlib.Order.Defs.Unbundled

/-!
# What actions do to a session

An action takes a session to another one.  A relation between sessions that holds of the two ends of
each part of an action, and that is a preorder, holds of the two ends of the whole.

* `Action.Leads`, `Attempt.Leads` : an action stays within a relation.
* `Session.WithEvents` : the relation of saying something, which changes nothing but the history.
* `Session.AllowsWords` : the relations that words for the log and for the person stay within.
* `Action.OnlySays` : the actions that change nothing but the history.
-/

namespace FormatChain

variable {α β : Type} {R R' : Session → Session → Prop}

/-! ## Parts of an action -/

namespace Action

@[simp]
theorem pure_apply (a : α) (s : Session) : (pure a : Action α) s = (a, s) := rfl

@[simp]
theorem bind_apply (x : Action α) (f : α → Action β) (s : Session) :
    (x >>= f) s = f (x s).1 (x s).2 := rfl

@[simp]
theorem get_apply (s : Session) : (get : Action Session) s = (s, s) := rfl

@[simp]
theorem settings_apply (s : Session) : settings s = (s.app.settings, s) := rfl

@[simp]
theorem setSettings_apply (settings : Settings) (s : Session) :
    setSettings settings s = ((), { s with app := { s.app with settings } }) := rfl

@[simp]
theorem document_apply (n : Nat) (s : Session) : document n s = (s.document n, s) := rfl

@[simp]
theorem changeDocument_apply (n : Nat) (f : Document → Document) (s : Session) :
    changeDocument n f s = ((), s.putDocument n (f (s.document n))) := rfl
@[simp]
theorem record_apply (e : Event) (s : Session) :
    record e s = ((), { s with history := e :: s.history }) := rfl

end Action

namespace Attempt

@[simp]
theorem run_pure (a : α) (s : Session) : (pure a : Attempt α).run s = (.ok a, s) := rfl

@[simp]
theorem run_lift (x : Action α) (s : Session) :
    (liftM x : Attempt α).run s = (.ok (x s).1, (x s).2) := rfl

@[simp]
theorem run_get (s : Session) : (get : Attempt Session).run s = (.ok s, s) := rfl

@[simp]
theorem run_mk_pure (x : Except Failure α) (s : Session) :
    (ExceptT.mk (pure x) : Attempt α).run s = (x, s) := rfl

/-- An attempt goes on with what its first part found, or ends with its failure. -/
theorem run_bind (x : Attempt α) (f : α → Attempt β) (s : Session) :
    (x >>= f).run s =
      match x.run s with
      | (.ok a, s') => (f a).run s'
      | (.error e, s') => (.error e, s') := by
  change ExceptT.bindCont f (x.run s).1 (x.run s).2 = _
  rcases x.run s with ⟨_ | _, _⟩ <;> rfl

theorem run_bind_ok {x : Attempt α} {f : α → Attempt β} {s s' : Session} {a : α}
    (h : x.run s = (.ok a, s')) : (x >>= f).run s = (f a).run s' := by
  rw [run_bind, h]

theorem run_bind_error {x : Attempt α} {f : α → Attempt β} {s s' : Session} {e : Failure}
    (h : x.run s = (.error e, s')) : (x >>= f).run s = (.error e, s') := by
  rw [run_bind, h]

/-- An attempt that succeeds did so in both of its parts. -/
theorem run_bind_eq_ok_iff {x : Attempt α} {f : α → Attempt β} {s s' : Session} {b : β} :
    (x >>= f).run s = (.ok b, s') ↔
      ∃ a between, x.run s = (.ok a, between) ∧ (f a).run between = (.ok b, s') := by
  constructor
  · intro h
    rcases hx : x.run s with ⟨e | a, between⟩
    · rw [run_bind_error hx] at h
      exact absurd (Prod.mk.inj h).1 (by simp)
    · rw [run_bind_ok hx] at h
      exact ⟨a, between, rfl, h⟩
  · rintro ⟨a, between, hx, hf⟩
    rw [run_bind_ok hx, hf]

theorem run_lift_bind (x : Action α) (f : α → Attempt β) (s : Session) :
    ((liftM x : Attempt α) >>= f).run s = (f (x s).1).run (x s).2 :=
  run_bind_ok (run_lift x s)

end Attempt

/-! ## Staying within a relation -/

namespace Action

/-- Whatever session the action starts in, the one it ends in is related to it. -/
def Leads (R : Session → Session → Prop) (x : Action α) : Prop := ∀ s, R s (x s).2

theorem Leads.mono {x : Action α} (hx : Leads R x) (h : ∀ s s', R s s' → R' s s') :
    Leads R' x := fun s => h _ _ (hx s)

/-- An action goes on from where another one led. -/
theorem Leads.after [IsTrans Session R] {x : Action α} {s s' : Session} (hx : Leads R x)
    (h : R s s') : R s (x s').2 := IsTrans.trans _ _ _ h (hx s')

theorem leads_pure [Std.Refl R] (a : α) : Leads R (pure a) := fun s => refl s

theorem leads_get [Std.Refl R] : Leads R (get : Action Session) := fun s => refl s

theorem Leads.bind [IsTrans Session R] {x : Action α} {f : α → Action β} (hx : Leads R x)
    (hf : ∀ a, Leads R (f a)) : Leads R (x >>= f) :=
  fun s => IsTrans.trans _ _ _ (hx s) (hf (x s).1 (x s).2)

theorem Leads.ite {p : Prop} [Decidable p] {x y : Action α} (hx : Leads R x) (hy : Leads R y) :
    Leads R (if p then x else y) := by
  split
  · exact hx
  · exact hy

theorem Leads.forM [IsPreorder Session R] {f : α → Action PUnit} (hf : ∀ a, Leads R (f a))
    (items : List α) : Leads R (items.forM f) := by
  induction items with
  | nil => exact leads_pure _
  | cons a rest ih => exact (hf a).bind fun _ => ih

end Action

namespace Attempt

/-- Whatever session the attempt starts in, the one it ends in, by success or by failure, is related
to it. -/
def Leads (R : Session → Session → Prop) (x : Attempt α) : Prop := Action.Leads R x.run

theorem leads_pure [Std.Refl R] (a : α) : Leads R (pure a : Attempt α) := fun s => refl s

/-- An attempt that goes on from what it found leads to where it goes on to. -/
theorem leads_ok_bind {a : α} {f : α → Attempt β} (h : Leads R (f a)) :
    Leads R (ExceptT.mk (pure (.ok a)) >>= f) := h

theorem leads_throw [Std.Refl R] (e : Failure) : Leads R (throw e : Attempt α) := fun s => refl s

theorem Leads.bind [IsTrans Session R] {x : Attempt α} {f : α → Attempt β} (hx : Leads R x)
    (hf : ∀ a, Leads R (f a)) : Leads R (x >>= f) := by
  intro s
  have hfirst : R s (x.run s).2 := hx s
  cases h : x.run s with
  | mk result s' =>
    rw [h] at hfirst
    cases result with
    | error e =>
      rw [run_bind_error h]
      exact hfirst
    | ok a =>
      rw [run_bind_ok h]
      exact IsTrans.trans _ _ _ hfirst (hf a s')

theorem Leads.adapt {x : Attempt α} (hx : Leads R x) (f : Failure → Failure) :
    Leads R (x.adapt f) := hx

end Attempt

/-! ## Saying something -/

namespace Session

variable {s s' : Session}

/-- The second session is the first one with more events in its history. -/
def WithEvents (s s' : Session) : Prop :=
  ∃ events, s' = { s with history := events ++ s.history }

instance : IsPreorder Session WithEvents where
  refl _ := ⟨[], rfl⟩
  trans := by
    rintro _ _ _ ⟨first, rfl⟩ ⟨second, rfl⟩
    exact ⟨second ++ first, by simp only [List.append_assoc]⟩

namespace WithEvents

theorem disk (h : WithEvents s s') : s'.disk = s.disk := by
  obtain ⟨_, rfl⟩ := h
  rfl

theorem outside (h : WithEvents s s') : s'.outside = s.outside := by
  obtain ⟨_, rfl⟩ := h
  rfl

theorem cancelled (h : WithEvents s s') : s'.cancelled = s.cancelled := by
  obtain ⟨_, rfl⟩ := h
  rfl

theorem app (h : WithEvents s s') : s'.app = s.app := by
  obtain ⟨_, rfl⟩ := h
  rfl

theorem documents (h : WithEvents s s') : s'.documents = s.documents := by
  obtain ⟨_, rfl⟩ := h
  rfl

theorem document (h : WithEvents s s') (n : Nat) : s'.document n = s.document n := by
  rw [Session.document, h.documents, Session.document]

end WithEvents

end Session

/-! ## Relations that do not mind words -/

namespace Session

/-- The relation does not mind words in the log, and messages. -/
structure AllowsWords (R : Session → Session → Prop) : Prop where
  logged (text context : String) (s : Session) :
    R s { s with history := .logged text context :: s.history }
  notified (kind : NotificationKind) (text : String) (s : Session) :
    R s { s with history := .notified kind text :: s.history }

theorem withEvents_allowsWords : AllowsWords WithEvents where
  logged text context _ := ⟨[.logged text context], rfl⟩
  notified kind text _ := ⟨[.notified kind text], rfl⟩

namespace AllowsWords

variable (h : AllowsWords R)
include h

theorem log (text : String) : Action.Leads R (Action.log text) := h.logged text _

theorem warn (text : String) : Action.Leads R (Action.warn text) := h.log _

theorem error (text : String) : Action.Leads R (Action.error text) := h.log _

theorem notify (kind : NotificationKind) (text : String) :
    Action.Leads R (Action.notify kind text) := h.notified kind text

variable [IsPreorder Session R]

theorem debug (text : String) : Action.Leads R (Action.debug text) :=
  Action.leads_get.bind fun _ => Action.Leads.ite (h.log _) (Action.leads_pure _)

theorem note : ∀ n : Note, Action.Leads R (Action.note n)
  | .debug text => h.debug text
  | .warn text => h.warn text
  | .error text => h.error text
  | .info text => h.log text
  | .notify kind text => h.notify kind text

theorem tell (x : Noted α) : Action.Leads R (Action.tell x) :=
  (Action.Leads.forM h.note x.notes).bind fun _ => Action.leads_pure _

end AllowsWords

end Session

namespace Action

open Session (withEvents_allowsWords)

/-- The action changes nothing but the history, to which it adds events. -/
abbrev OnlySays (x : Action α) : Prop := Leads Session.WithEvents x

theorem record_onlySays (e : Event) : OnlySays (record e) := fun _ => ⟨[e], rfl⟩

theorem log_onlySays (text : String) : OnlySays (log text) := withEvents_allowsWords.log text

theorem debug_onlySays (text : String) : OnlySays (debug text) := withEvents_allowsWords.debug text

theorem warn_onlySays (text : String) : OnlySays (warn text) := withEvents_allowsWords.warn text

theorem error_onlySays (text : String) : OnlySays (error text) := withEvents_allowsWords.error text

theorem tell_onlySays (x : Noted α) : OnlySays (tell x) := withEvents_allowsWords.tell x

end Action

end FormatChain
