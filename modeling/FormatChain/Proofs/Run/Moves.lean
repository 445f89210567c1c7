import FormatChain.Proofs.Run.Stages
import FormatChain.Proofs.Settings.Writing

/-!
# All that a run does

A run is a sequence of moves.  Some are those of others: of the formatters that it asks, and of
whoever is active while it sleeps.  The others are the run's own, and there are few kinds of them.

* `Host.Others` : a move of others.
* `Host.OwnMove` : the moves of a run on a document, with the slot of a scope and a language.
* `Host.upToRestore_moves`, `Host.fromRestore_ownMoves` : a run is a sequence of moves, all of which
  are its own from the restoration on.
-/

namespace FormatChain

open FormatChain.Json
open FormatChain.Settings (Scope)
open FormatChain.Session (WithEvents)
open Relation (ReflTransGen)

namespace Host

/-- A move of others: what goes on during a sleep, or what a formatter does that was asked. -/
inductive Others (host : Host) : Session → Session → Prop
  | sleep (s : Session) (millis : Nat) : Others host s (host.meanwhile millis s).2
  | format {id : String} {formatter : Formatter} (h : host.formatters.get? id = some formatter)
      (request : FormatRequest) (s : Session) :
      Others host s ((formatter.format request).run s).2

/-- A move of a run on the document of a number, the slot being that of a scope and a language. -/
inductive OwnMove (n : Nat) (scope : Scope) (language : String) : Session → Session → Prop
  /-- It says something. -/
  | say {s s' : Session} (h : WithEvents s s') : OwnMove n scope language s s'
  /-- It writes the setting that its slot is about. -/
  | name {s : Session} {value : Option Value} {settings : Settings}
      (h : s.app.settings.setRaw scope Settings.Key.defaultFormatter language value =
        .ok settings) :
      OwnMove n scope language s { s with app := { s.app with settings } }
  /-- It takes over a text that a formatter made. -/
  | take (s : Session) (text : String) :
      OwnMove n scope language s (s.putDocument n ((s.document n).setText text))
  /-- It takes over the text of the file. -/
  | reload {s : Session} {text : String} (h : s.read (s.document n).path = .ok text) :
      OwnMove n scope language s (s.putDocument n ((s.document n).setText text).markSaved)
  /-- It writes the file. -/
  | write {s : Session} {disk : Disk}
      (h : s.write (s.document n).path (s.document n).text = .ok disk) :
      OwnMove n scope language s { s with disk }
  /-- It remembers the text as saved. -/
  | save (s : Session) : OwnMove n scope language s (s.putDocument n (s.document n).markSaved)
  /-- It takes the guard or gives it back. -/
  | guard (s : Session) (guard : Guard) :
      OwnMove n scope language s { s with app := { s.app with guard } }

/-- A move during a run: one of others, or one of its own. -/
inductive Move (host : Host) (n : Nat) (scope : Scope) (language : String) :
    Session → Session → Prop
  | others {s s' : Session} (h : host.Others s s') : Move host n scope language s s'
  | own {s s' : Session} (h : OwnMove n scope language s s') : Move host n scope language s s'

/-- A sequence of moves. -/
abbrev Moves (host : Host) (n : Nat) (scope : Scope) (language : String) :
    Session → Session → Prop :=
  ReflTransGen (host.Move n scope language)

/-- A sequence of a run's own moves. -/
abbrev OwnMoves (n : Nat) (scope : Scope) (language : String) : Session → Session → Prop :=
  ReflTransGen (OwnMove n scope language)

variable {host : Host} {course : Course} {n : Nat} {scope : Scope} {language : String}
  {s s' : Session}

theorem OwnMoves.moves (h : OwnMoves n scope language s s') : host.Moves n scope language s s' :=
  ReflTransGen.mono (fun _ _ h => Move.own h) _ _ h

theorem idles_moves : host.Idles (host.Moves n scope language) where
  saying _ _ h := .single (.own (.say h))
  meanwhile millis s := .single (.others (.sleep s millis))

/-! ## One setting -/

/-- A move of the run's own changes at most one raw value. -/
theorem OwnMove.raw? (h : OwnMove n scope language s s') {scope' : Scope} {key : String}
    {language' : Option String}
    (hplace :
      ¬ (scope' = scope ∧ key = Settings.Key.defaultFormatter ∧ language' = some language)) :
    s'.app.settings.raw? scope' key language' = s.app.settings.raw? scope' key language' := by
  cases h with
  | say h => rw [h.app]
  | name h =>
    rw [Settings.raw?_setRaw h, if_neg]
    rintro ⟨rfl, rfl, rfl⟩
    exact hplace ⟨rfl, rfl, rfl⟩
  | take _ | reload _ | write _ | save | guard _ => rfl

/-! ## Formatting and saving -/

theorem ownMoves_of_takeOutput {output : FormatOutput} {result : Except Failure Unit}
    (h : (takeOutput n output).run s = (result, s')) : OwnMoves n scope language s s' := by
  cases output with
  | unchanged =>
    rw [run_takeOutput_unchanged] at h
    obtain rfl : s = s' := (Prod.mk.inj h).2
    exact .refl
  | text text =>
    rw [run_takeOutput_text] at h
    obtain rfl := (Prod.mk.inj h).2
    exact .single (.take s text)
  | fileUpdated =>
    cases hread : s.read (s.document n).path with
    | error e =>
      obtain ⟨said, hsaid, hrun⟩ := run_takeOutput_unread hread
      rw [hrun] at h
      obtain rfl : said = s' := (Prod.mk.inj h).2
      exact .single (.say hsaid)
    | ok text =>
      obtain ⟨said, hsaid, hrun⟩ := run_takeOutput_reloaded hread
      rw [hrun] at h
      obtain rfl := (Prod.mk.inj h).2
      refine .tail (.single (.say hsaid)) (.reload ?_)
      rw [hsaid.read, hsaid.document]
      exact hread

/-- A formatter that was chosen makes a move of others. -/
theorem moves_of_format {settings : Settings} {l : String} {formatter : Formatter}
    {request : FormatRequest} {asked made : Session} {result : Except Failure FormatOutput}
    (h : host.chooseFormatter settings l = .ok formatter) (hasked : WithEvents s asked)
    (hformat : (formatter.format request).run asked = (result, made)) :
    host.Moves n scope language s made := by
  obtain ⟨id, -, hid⟩ := chooseFormatter_eq_ok_iff.1 h
  have hmove := Others.format hid request asked
  rw [hformat] at hmove
  exact .tail (.single (.own (.say hasked))) (.others hmove)

theorem Formatted.moves {result : Except Failure Unit} (h : host.Formatted n s result s') :
    host.Moves n scope language s s' := by
  cases h with
  | unchosen h => exact .refl
  | failed h hasked hformat => exact moves_of_format h hasked hformat
  | untaken h hasked hformat htake =>
    exact (moves_of_format h hasked hformat).trans (ownMoves_of_takeOutput htake).moves
  | taken h hasked hformat htake hsaid =>
    exact ((moves_of_format h hasked hformat).trans (ownMoves_of_takeOutput htake).moves).tail
      (.own (.say hsaid))

theorem Saved.ownMoves {result : Except Failure Unit} (h : Saved n s result s') :
    OwnMoves n scope language s s' := by
  cases h with
  | remembered htarget hsaid => exact .tail (.single (.save s)) (.say hsaid)
  | written htarget hwrite hsaid =>
    exact ((ReflTransGen.single (.write hwrite)).tail (.save _)).tail (.say hsaid)
  | refused htarget hwrite hsaid => exact .single (.say hsaid)

theorem SavedIf.ownMoves {wanted : Prop} {cause : Option Failure}
    (h : SavedIf n wanted s cause s') : OwnMoves n scope language s s' := by
  cases h with
  | unwanted h => exact .refl
  | saved h hsave => exact hsave.ownMoves
  | refused h hsave hsaid => exact hsave.ownMoves.tail (.say hsaid)

/-! ## Runs -/

/-- The step of a formatter is a sequence of moves. -/
theorem runStep_moves (hconfirm : course.confirm = host.poll) {slot : Slot} {index : Nat}
    {id : String} {fingerprint after : Fingerprint} {step : StepReport}
    (hran : host.runStep course slot index id fingerprint s = ((step, after), s')) :
    host.Moves course.document scope language s s' := by
  have hidles : host.Idles (host.Moves course.document scope language) := idles_moves
  obtain ⟨asked, hasked, hconclude, -, -⟩ := runStep_spec hidles hconfirm hran
  exact (hasked.trans (formatDocument_formatted host course.document asked).moves).trans hconclude

/-- Naming a formatter in a slot writes the setting that the slot is about, and its step follows. -/
theorem moves_of_named (hconfirm : course.confirm = host.poll) {slot slot' : Slot} {index : Nat}
    {id : String} {fingerprint after : Fingerprint} {settings : Settings} {step : StepReport}
    {announced stepped : Session} (hannounced : WithEvents s announced)
    (hactivate : slot.activate id s.app.settings = .ok (slot', settings))
    (hran : host.runStep course slot' index id fingerprint
      { announced with app := { announced.app with settings } } = ((step, after), stepped)) :
    host.Moves course.document slot.scope slot.language s stepped := by
  have hset := (Slot.activate_eq_ok_iff.1 hactivate).2
  rw [← hannounced.app] at hset
  exact ((ReflTransGen.single (.own (.say hannounced))).tail (.own (.name hset))).trans
    (runStep_moves hconfirm hran)

/-- Running formatters is a sequence of moves, all for the one slot. -/
theorem Stepped.moves (hconfirm : course.confirm = host.poll) {index : Nat} {ids : List String}
    {slot : Slot} {fingerprint : Fingerprint} {stepping : Stepping}
    (h : Stepped host course index ids slot fingerprint s stepping s') :
    host.Moves course.document slot.scope slot.language s s' := by
  induction h with
  | done => exact .refl
  | cancelled _ hsaid => exact .single (.own (.say hsaid))
  | refused _ _ hsaid => exact .single (.own (.say hsaid))
  | unsaved _ hannounced hactivate hran hsave =>
    exact (moves_of_named hconfirm hannounced hactivate hran).trans hsave.ownMoves.moves
  | goesOn _ hannounced hactivate hran hsave _ ih =>
    have hnamed := moves_of_named hconfirm hannounced hactivate hran
    obtain ⟨rfl, -⟩ := Slot.activate_eq_ok_iff.1 hactivate
    exact (hnamed.trans hsave.ownMoves.moves).trans ih

theorem upToRestore_moves (hconfirm : course.confirm = host.poll) (chain : Chain) (slot : Slot)
    (s : Session) :
    host.Moves course.document slot.scope slot.language s
      (host.upToRestore course chain slot s).2 := by
  obtain ⟨announced, hannounced, hstepped⟩ := upToRestore_stepped host course chain slot s
  exact .trans (.single (.own (.say hannounced))) (hstepped.moves hconfirm)

theorem restore_ownMoves (slot : Slot) :
    Action.Leads (OwnMoves n slot.scope slot.language) (restore slot) := by
  intro s
  cases hrestore : slot.restore s.app.settings with
  | error e => exact .single (.say (restore_error hrestore))
  | ok settings =>
    refine .tail ?_ (.say (restore_ok hrestore))
    rcases Slot.restore_eq_ok_iff.1 hrestore with ⟨-, hset⟩ | ⟨-, rfl⟩
    · exact .single (.name hset)
    · exact .refl

/-- From the restoration on a run only makes moves of its own. -/
theorem fromRestore_ownMoves (course : Course) (original : String) (stepping : Stepping)
    (s : Session) :
    OwnMoves course.document stepping.slot.scope stepping.slot.language s
      (fromRestore course original stepping s).2 := by
  obtain ⟨cause, saved, hsave, hsaid, -⟩ := fromRestore_cases course original stepping s
  exact ((restore_ownMoves stepping.slot s).trans hsave.ownMoves).tail (.say hsaid)

end Host

end FormatChain
