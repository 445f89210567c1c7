import FormatChain.Proofs.Session.Files
import FormatChain.Run.Activation

/-!
# What the editor does

Formatting a document and saving it may come to an end in a few ways.  Each is a case here, with the
session that it leaves, so that nothing else has to look into the two.

* `Registry.map`, `Registry.get?_withoutDisk` : formatters that are changed, and those at hand that
  do not work on disk.
* `Host.Idles` : what goes on while the program sleeps stays within a relation.
* `Host.Formatted`, `Host.formatDocument_formatted` : all that formatting can come to.
* `Host.Saved`, `Host.saveDocument_saved` : all that saving can come to.
* `Host.SavedIf` : the same where it is only saved on a condition.
-/

namespace FormatChain

open FormatChain.Session (AllowsWords WithEvents withEvents_allowsWords)

/-! ## Formatters at hand -/

/-- Among the entries of which something is true, a name is that of an entry of which it is true. -/
theorem Entries.get?_filter {α : Type} {entries : List (String × α)}
    (h : (names entries).Nodup) (p : α → Bool) (name : String) :
    get? name (entries.filter fun entry => p entry.2) = (get? name entries).filter p := by
  induction entries with
  | nil => rfl
  | cons entry rest ih =>
    obtain ⟨hfresh, hrest⟩ := List.nodup_cons.1 h
    have hfiltered := ih hrest
    by_cases hname : entry.1 = name
    · subst hname
      rw [get?_eq_none_iff.2 hfresh] at hfiltered
      cases hp : p entry.2 with
      | true => simp [get?, hp, Option.filter]
      | false => simpa [get?, hp, Option.filter] using hfiltered
    · cases hp : p entry.2 with
      | true => simp [get?, hp, hname, hfiltered]
      | false => simp [get?, hp, hname, hfiltered]

theorem Registry.get?_withoutDisk (r : Registry) (id : String) :
    r.withoutDisk.2.get? id = (r.get? id).filter fun f => !f.onDisk :=
  Entries.get?_filter r.nodup (fun f : Formatter => !f.onDisk) id

/-- The formatters, each of them changed, under their names. -/
def Registry.map (change : Formatter → Formatter) (r : Registry) : Registry where
  entries := r.entries.map fun entry => (entry.1, change entry.2)
  nodup := by
    have hnames : Entries.names (r.entries.map fun entry => (entry.1, change entry.2)) =
        Entries.names r.entries := by
      rw [Entries.names, Entries.names, List.map_map]
      rfl
    rw [hnames]
    exact r.nodup

theorem Registry.get?_map (change : Formatter → Formatter) (r : Registry) (id : String) :
    (r.map change).get? id = (r.get? id).map change := by
  change Entries.get? id (r.entries.map fun entry => (entry.1, change entry.2)) =
    (Entries.get? id r.entries).map change
  induction r.entries with
  | nil => rfl
  | cons entry rest ih =>
    rw [List.map_cons, Entries.get?, Entries.get?, ih]
    split
    · rfl
    · rfl

/-- If only formatters on disk are changed, and stay on disk, those that do not work on disk are the
same. -/
theorem Registry.withoutDisk_map {change : Formatter → Formatter}
    (honDisk : ∀ f, (change f).onDisk = f.onDisk) (hoff : ∀ f, f.onDisk = false → change f = f)
    (r : Registry) : (r.map change).withoutDisk = r.withoutDisk := by
  have hremoved : ∀ entries : List (String × Formatter),
      Entries.names ((entries.map fun entry => (entry.1, change entry.2)).filter
        fun entry => !!entry.2.onDisk) =
      Entries.names (entries.filter fun entry => !!entry.2.onDisk) := by
    intro entries
    rw [List.filter_map, Entries.names, List.map_map]
    simp only [Function.comp_def, honDisk]
    rfl
  have hkept : ∀ entries : List (String × Formatter),
      (entries.map fun entry => (entry.1, change entry.2)).filter (fun entry => !entry.2.onDisk) =
        entries.filter fun entry => !entry.2.onDisk := by
    intro entries
    induction entries with
    | nil => rfl
    | cons entry rest ih =>
      cases hdisk : entry.2.onDisk with
      | true => simp [honDisk, hdisk, ih]
      | false => simp [hoff _ hdisk, hdisk, ih]
  exact Prod.ext (hremoved r.entries) (OrderedMap.ext_entries (hkept r.entries))

/-- A formatter that is found is one of those that were added. -/
theorem Registry.mem_of_get? {formatters : List Formatter} {id : String} {f : Formatter}
    (h : (ofFormatters formatters).get? id = some f) : f ∈ formatters := by
  have hfold : ∀ r : Registry, (formatters.foldl add r).get? id = some f →
      r.get? id = some f ∨ f ∈ formatters := by
    clear h
    induction formatters with
    | nil => exact fun _ h => .inl h
    | cons first rest ih =>
      intro r h
      rcases ih _ h with hadded | hmem
      · rw [add, OrderedMap.get?_set] at hadded
        split at hadded
        · exact .inr (Option.some.inj hadded ▸ List.mem_cons_self)
        · exact .inl hadded
      · exact .inr (List.mem_cons_of_mem _ hmem)
  rcases hfold .empty h with hnone | hmem
  · rw [OrderedMap.get?_empty] at hnone
    exact absurd hnone (by simp)
  · exact hmem

namespace Host

variable {host : Host} {R : Session → Session → Prop} {n : Nat} {s : Session}

/-! ## Sleeping and looking -/

/-- Saying something, and whatever goes on during a sleep, stays within the relation. -/
structure Idles (host : Host) (R : Session → Session → Prop) : Prop where
  saying : ∀ s s', WithEvents s s' → R s s'
  meanwhile : ∀ millis, Action.Leads R (host.meanwhile millis)

theorem Idles.of_onlySays {α : Type} {x : Action α} (h : host.Idles R) (hx : Action.OnlySays x) :
    Action.Leads R x :=
  hx.mono h.saying

theorem Idles.allowsWords (h : host.Idles R) : AllowsWords R where
  logged text context _ := h.saying _ _ ⟨[.logged text context], rfl⟩
  notified kind text _ := h.saying _ _ ⟨[.notified kind text], rfl⟩

variable [IsPreorder Session R]

theorem Idles.sleep (h : host.Idles R) (millis : Nat) : Action.Leads R (host.sleep millis) :=
  (h.of_onlySays (Action.record_onlySays _)).bind fun _ => h.meanwhile millis

theorem see_leads (h : AllowsWords R) (slot : Slot) (id : String) (before : Nat) :
    Action.Leads R (see slot id before) := by
  refine Action.Leads.bind (fun s => refl s) fun settings => ?_
  refine Action.Leads.ite ?_ (Action.leads_pure _)
  exact (h.debug _).bind fun _ => Action.leads_pure _

theorem look_leads (h : AllowsWords R) (hsleep : ∀ millis, Action.Leads R (host.sleep millis))
    (slot : Slot) (id : String) (interval before more : Nat) :
    Action.Leads R (host.look slot id interval before more) := by
  induction more generalizing before with
  | zero => exact see_leads h slot id before
  | succ more ih =>
    refine (see_leads h slot id before).bind fun seen => ?_
    refine Action.Leads.ite (Action.leads_pure _) ?_
    exact (hsleep interval).bind fun _ => ih (before + 1)

/-- Looking again and again whether a formatter is the active one is but words and sleep. -/
theorem poll_leads (h : AllowsWords R) (hsleep : ∀ millis, Action.Leads R (host.sleep millis))
    (slot : Slot) (id : String) (policy : ActivationPolicy) :
    Action.Leads R (host.poll slot id policy) := by
  unfold Host.poll
  split
  · exact Action.leads_pure _
  · exact look_leads h hsleep slot id policy.interval 0 _

theorem Idles.poll (h : host.Idles R) (slot : Slot) (id : String) (policy : ActivationPolicy) :
    Action.Leads R (host.poll slot id policy) := poll_leads h.allowsWords h.sleep slot id policy

/-! ## Formatting -/

/-- What a formatter is told about a document. -/
def requestFor (d : Document) : FormatRequest := ⟨d.path, d.language, d.text⟩

theorem chooseFormatter_eq_ok_iff {settings : Settings} {language : String}
    {formatter : Formatter} :
    host.chooseFormatter settings language = .ok formatter ↔
      ∃ id, activeFormatter settings language = .ok id ∧
        host.formatters.get? id = some formatter := by
  rw [chooseFormatter]
  cases activeFormatter settings language with
  | error e => simp [bind, Except.bind]
  | ok id =>
    simp only [bind, Except.bind, Except.ok.injEq, exists_eq_left']
    cases host.formatters.get? id with
    | none => simp [throw, throwThe, MonadExceptOf.throw]
    | some found => simp [pure, Except.pure]

theorem warnAboutUnsaved_leads (h : AllowsWords R) (formatter : Formatter) (d : Document) :
    Action.Leads R (warnAboutUnsaved formatter d) := by
  refine Action.Leads.ite ?_ (Action.leads_pure _)
  refine Action.Leads.bind (Attempt.readText_leads h d.path) fun seen => ?_
  exact Action.Leads.ite (Action.leads_pure _) (h.warn _)

/-- Taking an output over changes the document, if anything. -/
theorem takeOutput_leads (h : AllowsWords R)
    (htext : ∀ text, Action.Leads R (Action.changeDocument n fun d => d.setText text))
    (hfile : ∀ text,
      Action.Leads R (Action.changeDocument n fun d => (d.setText text).markSaved))
    (output : FormatOutput) : Attempt.Leads R (takeOutput n output) := by
  cases output with
  | unchanged => exact Attempt.leads_pure _
  | text text => exact htext text
  | fileUpdated =>
    refine Attempt.Leads.bind (fun s => refl s) fun d => ?_
    exact Attempt.Leads.bind (Attempt.readText_leads h _) fun text => hfile text

theorem run_takeOutput_unchanged : (takeOutput n .unchanged).run s = (.ok (), s) := rfl

theorem run_takeOutput_text (text : String) :
    (takeOutput n (.text text)).run s = (.ok (), s.putDocument n ((s.document n).setText text)) :=
  rfl

theorem run_takeOutput_fileUpdated :
    (takeOutput n .fileUpdated).run s = (Attempt.readText (s.document n).path >>= fun text =>
      liftM (Action.changeDocument n fun d => (d.setText text).markSaved)).run s := by
  rw [takeOutput, Attempt.run_lift_bind, Action.document_apply]

/-- A file that was updated is read again, and its text counts as saved. -/
theorem run_takeOutput_reloaded {text : String} (h : s.read (s.document n).path = .ok text) :
    ∃ said, WithEvents s said ∧ (takeOutput n .fileUpdated).run s =
      (.ok (), said.putDocument n ((said.document n).setText text).markSaved) := by
  obtain ⟨hread, hsaid⟩ := Attempt.run_readText (s.document n).path s
  rcases hrun : (Attempt.readText (s.document n).path).run s with ⟨result, said⟩
  rw [hrun] at hread hsaid
  obtain rfl : result = .ok text := hread.trans h
  refine ⟨said, hsaid, ?_⟩
  rw [run_takeOutput_fileUpdated, Attempt.run_bind_ok hrun, Attempt.run_lift,
    Action.changeDocument_apply]

theorem run_takeOutput_unread {e : Failure} (h : s.read (s.document n).path = .error e) :
    ∃ said, WithEvents s said ∧ (takeOutput n .fileUpdated).run s = (.error e, said) := by
  obtain ⟨hread, hsaid⟩ := Attempt.run_readText (s.document n).path s
  rcases hrun : (Attempt.readText (s.document n).path).run s with ⟨result, said⟩
  rw [hrun] at hread hsaid
  obtain rfl : result = .error e := hread.trans h
  refine ⟨said, hsaid, ?_⟩
  rw [run_takeOutput_fileUpdated, Attempt.run_bind_error hrun]

/-- All that formatting a document can come to. -/
inductive Formatted (host : Host) (n : Nat) (s : Session) : Except Failure Unit → Session → Prop
  /-- No formatter is chosen. -/
  | unchosen {e : Failure}
      (h : host.chooseFormatter s.app.settings (s.document n).language = .error e) :
      Formatted host n s (.error e) s
  /-- The formatter fails. -/
  | failed {formatter : Formatter} {asked s' : Session} {e : Failure}
      (h : host.chooseFormatter s.app.settings (s.document n).language = .ok formatter)
      (hasked : WithEvents s asked)
      (hformat : (formatter.format (requestFor (s.document n))).run asked = (.error e, s')) :
      Formatted host n s (.error e) s'
  /-- What the formatter made is not taken over. -/
  | untaken {formatter : Formatter} {output : FormatOutput} {asked made s' : Session} {e : Failure}
      (h : host.chooseFormatter s.app.settings (s.document n).language = .ok formatter)
      (hasked : WithEvents s asked)
      (hformat : (formatter.format (requestFor (s.document n))).run asked = (.ok output, made))
      (htake : (takeOutput n output).run made = (.error e, s')) :
      Formatted host n s (.error e) s'
  /-- What the formatter made is taken over. -/
  | taken {formatter : Formatter} {output : FormatOutput} {asked made taken s' : Session}
      (h : host.chooseFormatter s.app.settings (s.document n).language = .ok formatter)
      (hasked : WithEvents s asked)
      (hformat : (formatter.format (requestFor (s.document n))).run asked = (.ok output, made))
      (htake : (takeOutput n output).run made = (.ok (), taken))
      (hsaid : WithEvents taken s') :
      Formatted host n s (.ok ()) s'

theorem formatDocument_formatted (host : Host) (n : Nat) (s : Session) :
    host.Formatted n s ((host.formatDocument n).run s).1 ((host.formatDocument n).run s).2 := by
  unfold formatDocument
  simp only [Attempt.run_lift_bind, Action.document_apply, Action.settings_apply]
  cases hchoose : host.chooseFormatter s.app.settings (s.document n).language with
  | error e =>
    rw [Attempt.run_bind_error (Attempt.run_mk_pure _ s)]
    exact .unchosen hchoose
  | ok formatter =>
    rw [Attempt.run_bind_ok (Attempt.run_mk_pure _ s), Attempt.run_lift_bind]
    have hasked := warnAboutUnsaved_leads withEvents_allowsWords formatter (s.document n) s
    generalize (warnAboutUnsaved formatter (s.document n) s).2 = asked at hasked ⊢
    change host.Formatted n s
      ((formatter.format (requestFor (s.document n)) >>= _).run asked).1
      ((formatter.format (requestFor (s.document n)) >>= _).run asked).2
    rcases hformat : (formatter.format (requestFor (s.document n))).run asked with
      ⟨e | output, made⟩
    · rw [Attempt.run_bind_error hformat]
      exact .failed hchoose hasked hformat
    · rw [Attempt.run_bind_ok hformat]
      rcases htake : (takeOutput n output).run made with ⟨e | ⟨⟩, taken⟩
      · rw [Attempt.run_bind_error htake]
        exact .untaken hchoose hasked hformat htake
      · rw [Attempt.run_bind_ok htake]
        split
        · exact .taken hchoose hasked hformat htake (Action.debug_onlySays _ taken)
        · exact .taken hchoose hasked hformat htake (Action.debug_onlySays _ taken)

/-! ## Saving -/

/-- All that saving a document can come to. -/
inductive Saved (n : Nat) (s : Session) : Except Failure Unit → Session → Prop
  /-- The text is only remembered. -/
  | remembered {s' : Session} (htarget : (s.document n).target = .memory)
      (hsaid : WithEvents (s.putDocument n (s.document n).markSaved) s') : Saved n s (.ok ()) s'
  /-- The text is written to the file. -/
  | written {disk : Disk} {s' : Session} (htarget : (s.document n).target = .disk)
      (hwrite : s.write (s.document n).path (s.document n).text = .ok disk)
      (hsaid : WithEvents ({ s with disk }.putDocument n (s.document n).markSaved) s') :
      Saved n s (.ok ()) s'
  /-- The file is not written. -/
  | refused {e : Failure} {s' : Session} (htarget : (s.document n).target = .disk)
      (hwrite : s.write (s.document n).path (s.document n).text = .error e)
      (hsaid : WithEvents s s') : Saved n s (.error e) s'

theorem saveDocument_saved (n : Nat) (s : Session) :
    Saved n s ((saveDocument n).run s).1 ((saveDocument n).run s).2 := by
  unfold saveDocument
  rw [Attempt.run_lift_bind, Action.document_apply]
  by_cases htarget : (s.document n).target = .disk
  · simp only [htarget, if_true]
    obtain ⟨said, hsaid, hrun⟩ :=
      Attempt.run_writeText (s.document n).path (s.document n).text s
    cases hwrite : s.write (s.document n).path (s.document n).text with
    | error e =>
      rw [hwrite] at hrun
      rw [Attempt.run_bind_error hrun]
      exact .refused htarget hwrite hsaid
    | ok disk =>
      rw [hwrite] at hrun
      rw [Attempt.run_bind_ok hrun, Attempt.run_lift_bind]
      obtain ⟨events, rfl⟩ := hsaid
      refine .written htarget hwrite ?_
      refine IsTrans.trans _ _ _ ?_ (Action.debug_onlySays _ _)
      exact ⟨.wrote (s.document n).path (s.document n).text :: events, rfl⟩
  · have hmemory : (s.document n).target = .memory := by
      cases h : (s.document n).target with
      | disk => exact absurd h htarget
      | memory => rfl
    simp only [hmemory, if_false, reduceCtorEq, Attempt.run_lift_bind]
    exact .remembered hmemory (Action.debug_onlySays _ _)

/-- Saving a document is a write, unless it is kept in memory, a mark and a remark. -/
theorem saveDocument_leads (hsaid : ∀ text, Action.Leads R (Action.debug text))
    (hwrote : ∀ p text disk s, R s { s with disk, history := .wrote p text :: s.history })
    (hmarked : Action.Leads R (Action.changeDocument n Document.markSaved)) :
    Attempt.Leads R (saveDocument n) := by
  refine Attempt.Leads.bind (fun s => refl s) fun d => ?_
  have hremember : Attempt.Leads R (do
      Action.changeDocument n Document.markSaved
      Action.debug s!"Saved {d.path.text}" : Attempt Unit) :=
    Attempt.Leads.bind hmarked fun _ => hsaid _
  split
  · exact (Attempt.writeText_leads (hsaid _) (hwrote _ _)).bind fun _ => hremember
  · exact hremember

/-- All that saving a document can come to if it is only saved when something holds. -/
inductive SavedIf (n : Nat) (wanted : Prop) (s : Session) : Option Failure → Session → Prop
  /-- It is not to be saved. -/
  | unwanted (h : ¬ wanted) : SavedIf n wanted s none s
  /-- It is saved. -/
  | saved {s' : Session} (h : wanted) (hsave : Saved n s (.ok ()) s') : SavedIf n wanted s none s'
  /-- It was to be saved, and was not. -/
  | refused {cause : Failure} {tried s' : Session} (h : wanted)
      (hsave : Saved n s (.error cause) tried) (hsaid : WithEvents tried s') :
      SavedIf n wanted s (some cause) s'

end Host

end FormatChain
