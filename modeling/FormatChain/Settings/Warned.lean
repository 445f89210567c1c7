import FormatChain.Settings.Layered
import FormatChain.Text.Search

/-!
# Settings read with a warning

Settings of a wrong type are passed over with a warning, which is one of the notes that a
computation may make.

* `Note` : a remark or a message.
* `Noted` : a value with notes, in order; a monad.
* `Settings.readOrWarn` : the value that counts.
* `Settings.decodeOrWarn` : a value at hand.
-/

/-!
## What a computation has to say

Much of the program only reads settings and has something to say about them.  Such a computation
has a value and notes: remarks for the log, and messages for the person.  Whether debugging remarks
are shown is decided where the notes end up, so the value of a computation cannot depend on it.
-/

namespace FormatChain

/-- How grave a message for the person is. -/
inductive NotificationKind where
  /-- Something to know. -/
  | info
  /-- Something to look at. -/
  | warning
  /-- Something that went wrong. -/
  | error
  deriving Repr, DecidableEq

/-- A remark for the log or a message for the person. -/
inductive Note where
  /-- A remark that is only shown when debugging. -/
  | debug (text : String)
  /-- A warning in the log. -/
  | warn (text : String)
  /-- A failure in the log. -/
  | error (text : String)
  /-- A plain line in the log. -/
  | info (text : String)
  /-- A message for the person. -/
  | notify (kind : NotificationKind) (text : String)
  deriving Repr, DecidableEq

/-- A value and the notes made on the way to it. -/
structure Noted (α : Type) where
  /-- The value. -/
  value : α
  /-- The notes, in order. -/
  notes : List Note := []
  deriving Repr

namespace Noted

instance : Monad Noted where
  pure value := { value }
  bind x f := ⟨(f x.value).value, x.notes ++ (f x.value).notes⟩

instance : LawfulMonad Noted :=
  LawfulMonad.mk' Noted
    (fun x => by cases x; simp [Functor.map])
    (fun x f => by simp [bind, pure])
    (fun x f g => by simp [bind, List.append_assoc])

/-- Makes a note. -/
def note (n : Note) : Noted Unit := ⟨(), [n]⟩

@[simp]
theorem value_pure {α : Type} (a : α) : (pure a : Noted α).value = a := rfl

@[simp]
theorem notes_pure {α : Type} (a : α) : (pure a : Noted α).notes = [] := rfl

@[simp]
theorem value_bind {α β : Type} (x : Noted α) (f : α → Noted β) :
    (x >>= f).value = (f x.value).value := rfl

@[simp]
theorem notes_bind {α β : Type} (x : Noted α) (f : α → Noted β) :
    (x >>= f).notes = x.notes ++ (f x.value).notes := rfl

end Noted

end FormatChain

/-!
## Settings read with a warning

A setting of the wrong shape is reported and then treated as if it were absent.
-/

namespace FormatChain.Settings

open FormatChain.Json

/-- What was read, or a warning and nothing. -/
def warnOnError {α : Type} : Except InvalidSetting (Option α) → Noted (Option α)
  | .ok value => pure value
  | .error e => ⟨none, [.warn e.message]⟩

/-- The value of a key that counts, read as something, or a warning and nothing. -/
def readOrWarn {α : Type} (s : Settings) (decode : Decoder α) (key : String)
    (language : Option String) : Noted (Option α) :=
  warnOnError (s.read decode key language)

/-- A value at hand read as something, or a warning and nothing. -/
def decodeOrWarn {α : Type} (decode : Decoder α) (key : String) (value : Value) :
    Noted (Option α) :=
  warnOnError ((decodeValue decode key value).map some)

end FormatChain.Settings
