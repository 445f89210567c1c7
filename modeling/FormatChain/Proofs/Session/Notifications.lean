import FormatChain.Proofs.Session.Actions
import Mathlib.Data.List.Basic

/-!
# Messages to the person

The messages that were sent are part of the history.  An action notifies of certain messages if it
sends them, in order, and no others.

* `Session.notifications` : the messages sent so far.
* `Noted.messages` : the messages among the notes of a computation.
* `Action.Notifies` : an action sends certain messages.
-/

namespace FormatChain

open FormatChain.Session (WithEvents)

/-- The message that an event is, if it is one. -/
def Event.notification? : Event → Option (NotificationKind × String)
  | .notified kind text => some (kind, text)
  | _ => none

/-- The messages sent so far, the earliest first. -/
def Session.notifications (s : Session) : List (NotificationKind × String) :=
  (s.history.filterMap Event.notification?).reverse

/-- The same messages were sent. -/
def Session.SameNotifications (s s' : Session) : Prop := s'.notifications = s.notifications

instance : IsPreorder Session Session.SameNotifications where
  refl _ := rfl
  trans _ _ _ h h' := h'.trans h

/-- The message that a note is, if it is one. -/
def Note.message? : Note → Option (NotificationKind × String)
  | .notify kind text => some (kind, text)
  | _ => none

variable {α β : Type}

/-! ## Messages of computations -/

namespace Noted

/-- The messages among the notes. -/
def messages (x : Noted α) : List (NotificationKind × String) := x.notes.filterMap Note.message?

@[simp]
theorem messages_pure (a : α) : (pure a : Noted α).messages = [] := rfl

@[simp]
theorem messages_bind (x : Noted α) (f : α → Noted β) :
    (x >>= f).messages = x.messages ++ (f x.value).messages :=
  List.filterMap_append

end Noted

/-- Nobody is notified of a setting of a wrong type. -/
@[simp]
theorem Settings.messages_readOrWarn (settings : Settings) (decode : Json.Decoder α) (key : String)
    (language : Option String) : (settings.readOrWarn decode key language).messages = [] := by
  rw [readOrWarn]
  cases settings.read decode key language <;> rfl

/-! ## Messages of actions -/

namespace Action

variable {messages more : List (NotificationKind × String)}

/-- The action sends these messages and no others. -/
def Notifies (messages : List (NotificationKind × String)) (x : Action α) : Prop :=
  ∀ s, (x s).2.notifications = s.notifications ++ messages

theorem Notifies.sameNotifications {x : Action α} (hx : Notifies [] x) :
    Leads Session.SameNotifications x := fun s => (hx s).trans (List.append_nil _)

theorem notifies_pure (a : α) : Notifies [] (pure a) := fun _ => (List.append_nil _).symm

theorem notifies_get : Notifies [] (get : Action Session) := fun _ => (List.append_nil _).symm

theorem Notifies.bind {x : Action α} {f : α → Action β} (hx : Notifies messages x)
    (hf : ∀ a, Notifies more (f a)) : Notifies (messages ++ more) (x >>= f) := by
  intro s
  rw [bind_apply, hf, hx, List.append_assoc]

theorem Notifies.ite {p : Prop} [Decidable p] {x y : Action α} (hx : Notifies messages x)
    (hy : Notifies messages y) : Notifies messages (if p then x else y) := by
  split
  · exact hx
  · exact hy

theorem notifies_record (e : Event) : Notifies e.notification?.toList (record e) := by
  intro s
  cases h : e.notification? with
  | none => simp [Session.notifications, h]
  | some message => simp [Session.notifications, h]

theorem notifies_log (text : String) : Notifies [] (log text) := notifies_record _

theorem notifies_debug (text : String) : Notifies [] (debug text) :=
  notifies_get.bind fun _ => (notifies_log _).ite (notifies_pure _)

theorem notifies_notify (kind : NotificationKind) (text : String) :
    Notifies [(kind, text)] (notify kind text) := notifies_record (.notified kind text)

theorem Notifies.forM {f : α → Action PUnit} {g : α → List (NotificationKind × String)}
    (hf : ∀ a, Notifies (g a) (f a)) (items : List α) :
    Notifies (items.flatMap g) (items.forM f) := by
  induction items with
  | nil => exact notifies_pure _
  | cons a rest ih => exact (hf a).bind fun _ => ih

theorem notifies_note : ∀ n : Note, Notifies n.message?.toList (note n)
  | .debug text => notifies_debug text
  | .warn _ | .error _ | .info _ => notifies_log _
  | .notify kind text => notifies_notify kind text

/-- Who passes on the notes of a computation sends the messages among them. -/
theorem notifies_tell (x : Noted α) : Notifies x.messages (tell x) := by
  have hnotes := (Notifies.forM notifies_note x.notes).bind fun _ => notifies_pure x.value
  rw [List.append_nil, ← List.filterMap_eq_flatMap_toList] at hnotes
  exact hnotes

end Action

end FormatChain
