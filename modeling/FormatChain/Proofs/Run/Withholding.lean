import FormatChain.Proofs.Run.Parts

/-!
# Runs that keep everything to themselves

Texts that are handed out, lines for the person, and files that are written leave the program; words
in the log and messages do not count.  A document in memory is saved by remembering its text.  So a
run on it writes no file, and hands nothing out, unless a formatter or somebody who is active
meanwhile does.

* `Session.deliveries` : what left the program so far.
* `Session.Withholds` : a document that is in memory stays there, and nothing leaves the program.
* `Host.Withholds` : formatters, and those who are active meanwhile, keep to that.
* `Host.Withholds.run` : so does a run.
-/

namespace FormatChain

open Session (AllowsWords)

variable {n : Nat}

/-! ## What leaves the program -/

/-- Whether something leaves the program: a text or a line that is handed out, or a file. -/
def Event.isDelivery : Event → Bool
  | .output _ => true
  | .printed _ => true
  | .wrote _ _ => true
  | _ => false

namespace Session

variable {s s' : Session}

/-- What left the program so far, the earliest first. -/
def deliveries (s : Session) : List Event := (s.history.filter Event.isDelivery).reverse

/-- Nothing more left the program. -/
def SameDeliveries (s s' : Session) : Prop := s'.deliveries = s.deliveries

instance : IsPreorder Session SameDeliveries where
  refl _ := rfl
  trans _ _ _ h h' := h'.trans h

theorem deliveries_record (s : Session) (e : Event) :
    (Action.record e s).2.deliveries =
      s.deliveries ++ if e.isDelivery then [e] else [] := by
  cases h : e.isDelivery with
  | true => simp [deliveries, h]
  | false => simp [deliveries, h]

theorem sameDeliveries_allowsWords : AllowsWords SameDeliveries where
  logged text context s := by simp [SameDeliveries, deliveries, Event.isDelivery]
  notified kind text s := by simp [SameDeliveries, deliveries, Event.isDelivery]

/-- If the document is in memory it stays there, the files are as they were, and nothing more left
the program. -/
def Withholds (n : Nat) (s s' : Session) : Prop :=
  (s.document n).target = .memory →
    (s'.document n).target = .memory ∧ s'.disk = s.disk ∧ s'.outside = s.outside ∧
      SameDeliveries s s'

instance : IsPreorder Session (Withholds n) where
  refl s h := ⟨h, rfl, rfl, refl s⟩
  trans := by
    intro first second third h h' hmemory
    obtain ⟨hthere, hdisk, houtside, hsame⟩ := h hmemory
    obtain ⟨hstill, hdisk', houtside', hsame'⟩ := h' hthere
    exact ⟨hstill, hdisk'.trans hdisk, houtside'.trans houtside, IsTrans.trans _ _ _ hsame hsame'⟩

theorem withholds_allowsWords (n : Nat) : AllowsWords (Withholds n) where
  logged text context s h := ⟨h, rfl, rfl, sameDeliveries_allowsWords.logged text context s⟩
  notified kind text s h := ⟨h, rfl, rfl, sameDeliveries_allowsWords.notified kind text s⟩

end Session

open Session (Withholds withholds_allowsWords)

theorem Action.setSettings_withholds (settings : Settings) :
    Action.Leads (Withholds n) (Action.setSettings settings) := fun _ h => ⟨h, rfl, rfl, rfl⟩

theorem Action.changeDocument_withholds {f : Document → Document}
    (hf : ∀ d, (f d).target = d.target) :
    Action.Leads (Withholds n) (Action.changeDocument n f) := by
  intro s h
  rw [Action.changeDocument_apply]
  refine ⟨?_, rfl, rfl, rfl⟩
  rw [Session.document_putDocument, if_pos rfl, hf, h]

namespace Host

/-- Formatters, and those who are active meanwhile, keep everything to themselves. -/
structure Withholds (host : Host) (n : Nat) : Prop where
  meanwhile (millis : Nat) : Action.Leads (Session.Withholds n) (host.meanwhile millis)
  format {id : String} {f : Formatter} (h : host.formatters.get? id = some f)
    (request : FormatRequest) : Attempt.Leads (Session.Withholds n) (f.format request)

variable {host : Host}

/-! ## What a run does by itself -/

theorem saveDocument_withholds (n : Nat) :
    Attempt.Leads (Session.Withholds n) (saveDocument n) := by
  intro s hmemory
  have hdisk : ¬ (s.document n).target = .disk := by simp [hmemory]
  have hremember : Attempt.Leads (Session.Withholds n) (do
      Action.changeDocument n Document.markSaved
      Action.debug s!"Saved {(s.document n).path.text}" : Attempt Unit) :=
    Attempt.Leads.bind (Action.changeDocument_withholds fun _ => rfl)
      fun _ => (withholds_allowsWords n).debug _
  have hrun := hremember s hmemory
  rw [saveDocument, Attempt.run_lift_bind, Action.document_apply]
  simpa only [if_neg hdisk] using hrun

theorem takeOutput_withholds (n : Nat) (output : FormatOutput) :
    Attempt.Leads (Session.Withholds n) (takeOutput n output) :=
  takeOutput_leads (withholds_allowsWords n)
    (fun text => Action.changeDocument_withholds fun d => Document.target_setText d text)
    (fun text => Action.changeDocument_withholds fun d => Document.target_setText d text) output

/-! ## Runs -/

theorem Withholds.sleep (h : host.Withholds n) (millis : Nat) :
    Action.Leads (Session.Withholds n) (host.sleep millis) := by
  have hslept : Action.Leads (Session.Withholds n) (Action.record (.slept millis)) := by
    intro s hmemory
    refine ⟨hmemory, rfl, rfl, ?_⟩
    rw [Session.SameDeliveries, Session.deliveries_record]
    exact List.append_nil _
  exact hslept.bind fun _ => h.meanwhile millis

theorem Withholds.bears (h : host.Withholds n) : host.Bears n (Session.Withholds n) where
  words := withholds_allowsWords n
  settings := Action.setSettings_withholds
  guard _ _ hmemory := ⟨hmemory, rfl, rfl, rfl⟩
  format hget request := h.format hget request
  output := takeOutput_withholds n
  save := saveDocument_withholds n

/-- **A run on a document in memory keeps everything to itself** if its formatters, and those who
are active meanwhile, do. -/
theorem Withholds.run (h : host.Withholds n) (chain : Chain) (options : RunOptions) :
    Action.Leads (Session.Withholds n) (host.run n chain options) :=
  h.bears.run h.sleep chain options

end Host

end FormatChain
