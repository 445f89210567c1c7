import FormatChain.Proofs.Run.Lockstep
import FormatChain.Proofs.Session.Guards

/-!
# Runs in runs

While a run holds its guard, formatters and those who are active meanwhile may start further runs on
the same guard, in the same application or from within another one.  All of these are skipped, and
the run goes on as if nobody had started them.

* `Action.Nests`, `Host.Nests` : the same doings, with runs started in them.
* `Action.Nests.matches` : nobody can tell them apart while the guard is held.
* `Host.runWith_nested` : nested runs do nothing, and the guard ends as it began.
-/

namespace FormatChain

open Session (AgreeWhile agreeWhile_congruence)
open Guard (HeldAt)

/-! ## Started runs -/

/-- What is known of a formatter without asking it. -/
def Formatter.kind (f : Formatter) : String × Bool := (f.id, f.onDisk)

/-- The second action does what the first one does, and starts runs besides, on the guard of the
application so many places out. -/
inductive Action.Nests : Nat → {α : Type} → Action α → Action α → Prop
  /-- Nothing is started. The action does not read remarks, and leaves the guard to its holder. -/
  | same {depth : Nat} {α : Type} {x : Action α}
      (h : Action.Matches (AgreeWhile (HeldAt depth)) x x) : Nests depth x x
  /-- One thing is done after the other. -/
  | bind {depth : Nat} {α β : Type} {x y : Action α} {f g : α → Action β} (h : Nests depth x y)
      (hrest : ∀ a, Nests depth (f a) (g a)) : Nests depth (x >>= f) (y >>= g)
  /-- A run is started, of any editor, on any document and with any chain, and its report is looked
  at. Where it is not started all goes on as after a run that was skipped. -/
  | run {α : Type} {x : Action α} {f : RunReport → Action α} (host : Host) (confirm : Confirmer)
      (n : Nat) (chain : Chain) (options : RunOptions)
      (hrest : Nests 0 x (f (.skipped .alreadyRunning))) :
      Nests 0 x (host.runWith confirm n chain options >>= f)
  /-- Another application works, and runs are started in what it does. -/
  | within {depth : Nat} {α : Type} {x y : Action α} (h : Nests (depth + 1) x y) :
      Nests depth (Application.within x) (Application.within y)
  /-- The application that waits works for a moment, and runs are started in what it does. -/
  | outer {depth : Nat} {x y : Action Unit} (h : Nests depth x y) :
      Nests (depth + 1) (Application.outer x) (Application.outer y)
  /-- Another application runs a chain on its own guard, and runs are started in what its formatters
  do, and meanwhile. -/
  | inner {depth : Nat} {host host' : Host} {confirm confirm' : Confirmer} (n : Nat) (chain : Chain)
      (options : RunOptions)
      (hmeanwhile : ∀ millis, Nests (depth + 1) (host.meanwhile millis) (host'.meanwhile millis))
      (hkinds : ∀ id, (host'.formatters.get? id).map Formatter.kind =
        (host.formatters.get? id).map Formatter.kind)
      (hformat : ∀ id f f', host.formatters.get? id = some f → host'.formatters.get? id = some f' →
        ∀ request, Nests (depth + 1) (f.format request).run (f'.format request).run)
      (hconfirm : ∀ slot id policy, Nests (depth + 1) (confirm slot id policy)
        (confirm' slot id policy)) :
      Nests (depth + 1) (host.runWith confirm n chain options)
        (host'.runWith confirm' n chain options)

/-- The second editor has formatters of the same names that do the same and may start runs besides,
as may those who are active meanwhile. -/
structure Host.Nests (host host' : Host) : Prop where
  meanwhile (millis : Nat) : Action.Nests 0 (host.meanwhile millis) (host'.meanwhile millis)
  kinds (id : String) : (host'.formatters.get? id).map Formatter.kind =
    (host.formatters.get? id).map Formatter.kind
  format {id : String} {f f' : Formatter} (h : host.formatters.get? id = some f)
    (h' : host'.formatters.get? id = some f') (request : FormatRequest) :
    Action.Nests 0 (f.format request).run (f'.format request).run

/-- The second way of confirming activations starts runs besides. -/
def Confirmer.Nests (confirm confirm' : Confirmer) : Prop :=
  ∀ slot id policy, Action.Nests 0 (confirm slot id policy) (confirm' slot id policy)

namespace Host

variable {host host' : Host} {confirm confirm' : Confirmer} {s : Session}
  {R : Session → Session → Prop} {P Q : List Guard → Prop}

/-! ## Runs on a guard -/

theorem matches_of_kinds
    (hmeanwhile : ∀ millis, Action.Matches R (host.meanwhile millis) (host'.meanwhile millis))
    (hkinds : ∀ id, (host'.formatters.get? id).map Formatter.kind =
      (host.formatters.get? id).map Formatter.kind)
    (hformat : ∀ id f f', host.formatters.get? id = some f → host'.formatters.get? id = some f' →
      ∀ request, Action.Matches R (f.format request).run (f'.format request).run) :
    host.Matches R host' := by
  refine ⟨hmeanwhile, fun id => ?_⟩
  have hkind := hkinds id
  cases hf : host.formatters.get? id <;> cases hf' : host'.formatters.get? id <;>
    rw [hf, hf'] at hkind
  · exact .none
  · exact absurd hkind (by simp)
  · exact absurd hkind (by simp)
  · obtain ⟨hid, honDisk⟩ := Prod.mk.inj (Option.some.inj hkind)
    exact .some ⟨hid, honDisk, hformat id _ _ hf hf'⟩

/-- Runs match if their editors do while the guard is held by them. -/
theorem runWith_matches (htaken : ∀ guard others, P (guard :: others) → Q (⟨true⟩ :: others))
    (hgiven : ∀ guard others, Q (guard :: others) → P (⟨false⟩ :: others))
    (h : host.Matches (AgreeWhile Q) host')
    (hconfirm : Confirmer.Matches (AgreeWhile Q) confirm confirm')
    (n : Nat) (chain : Chain) (options : RunOptions) :
    Action.Matches (AgreeWhile P) (host.runWith confirm n chain options)
      (host'.runWith confirm' n chain options) := by
  intro s t hst
  have hguard : t.app.guard = s.app.guard := congrArg (fun s => s.app.guard) hst.1
  cases hheld : s.app.guard.held with
  | true =>
    rw [runWith_held host confirm n chain options hheld,
      runWith_held host' confirm' n chain options (hguard ▸ hheld)]
    exact ⟨rfl, (agreeWhile_congruence P).remark _ _ hst⟩
  | false =>
    have hentered : AgreeWhile Q (held s) (held t) :=
      ⟨congrArg (fun s => { s with app := { s.app with guard := ⟨true⟩ } }) hst.1,
        htaken _ _ hst.2⟩
    have hcourse : (courseOf confirm n chain options).Matches (AgreeWhile Q)
        (courseOf confirm' n chain options) := ⟨rfl, rfl, hconfirm⟩
    obtain ⟨hreport, hsame, hstate⟩ :=
      h.runIfNeeded (agreeWhile_congruence Q) hcourse chain _ _ hentered
    rw [runWith_of_free hheld, runWith_of_free (hguard ▸ hheld)]
    exact ⟨hreport,
      congrArg (fun s => { s with app := { s.app with guard := ⟨false⟩ } }) hsame,
      hgiven _ _ hstate⟩

/-- After a run its guard is as it was before: free again, or still held by somebody else. -/
theorem runWith_guard (host : Host) (confirm : Confirmer) (n : Nat) (chain : Chain)
    (options : RunOptions) (s : Session) :
    (host.runWith confirm n chain options s).2.app.guard = s.app.guard := by
  cases hheld : s.app.guard.held with
  | true => rw [(runWith_of_held host confirm n chain options hheld).2.app]
  | false =>
    rw [runWith_of_free hheld]
    change (⟨false⟩ : Guard) = s.app.guard
    rw [← hheld]

end Host

/-! ## Nested runs -/

/-- **While the guard is held nobody can tell whether runs were started on it.** -/
theorem Action.Nests.matches {depth : Nat} {α : Type} {x y : Action α}
    (h : Action.Nests depth x y) : Action.Matches (AgreeWhile (HeldAt depth)) x y := by
  induction h with
  | same h => exact h
  | bind _ _ ih ihrest => exact ih.bind ihrest
  | @run α x f host confirm n chain options _ ih =>
    intro s t hst
    have hguard : t.app.guard = s.app.guard := congrArg (fun s => s.app.guard) hst.1
    have hheld : t.app.guard.held = true := hguard ▸ Session.held_of_heldAt_zero hst.2
    rw [Action.bind_apply, Host.runWith_held host confirm n chain options hheld]
    exact ih s _ ⟨(Session.unremarked_debug t _).trans hst.1, hst.2⟩
  | within _ ih => exact Application.within_matches ih
  | outer _ ih => exact Application.outer_matches ih
  | inner n chain options _ hkinds _ _ ihmeanwhile ihformat ihconfirm =>
    exact Host.runWith_matches (fun _ _ h => h) (fun _ _ h => h)
      (Host.matches_of_kinds ihmeanwhile hkinds ihformat) ihconfirm n chain options

namespace Host

variable {host host' : Host} {confirm confirm' : Confirmer}

theorem Nests.matches (h : host.Nests host') :
    host.Matches (AgreeWhile (HeldAt 0)) host' :=
  matches_of_kinds (fun millis => (h.meanwhile millis).matches) h.kinds
    fun _ _ _ hf hf' request => (h.format hf hf' request).matches

theorem Nests.sleep (h : host.Nests host') (millis : Nat) :
    Action.Nests 0 (host.sleep millis) (host'.sleep millis) :=
  .bind (.same ((agreeWhile_congruence _).matches_record _)) fun _ => h.meanwhile millis

/-- Waiting for a formatter to become active starts the runs that are started during its sleeps. -/
theorem Nests.poll (h : host.Nests host') : Confirmer.Nests host.poll host'.poll := by
  have hreturn : ∀ seen : Bool, Action.Nests 0 (pure seen) (pure seen) :=
    fun seen => .same (Action.matches_pure seen)
  have hlook : ∀ slot id interval more before, Action.Nests 0
      (host.look slot id interval before more) (host'.look slot id interval before more) := by
    intro slot id interval more
    induction more with
    | zero => exact fun before => .same (see_matches (agreeWhile_congruence _) slot id before)
    | succ more ih =>
      intro before
      refine .bind (.same (see_matches (agreeWhile_congruence _) slot id before)) fun seen => ?_
      cases seen with
      | true => exact hreturn true
      | false => exact .bind (h.sleep interval) fun _ => ih (before + 1)
  rintro slot id ⟨_ | more, interval⟩
  · exact hreturn false
  · exact hlook slot id interval more 0

/-- **Runs in runs do nothing.**  A run on a guard that is held is skipped without steps, and only
remarks on it: it changes no document, no layer and no file, sleeps not and asks no formatter, and
leaves the guard held.  So take an editor, and the same one whose formatters and sleeps start
further runs on the same guard, at any depth and as many as they like.  A run of the second has the
report of a run of the first, and leaves the same session up to remarks.  After it the guard is free
if it was free before, and held if it was held from outside. -/
theorem runWith_nested (h : host.Nests host') (hconfirm : Confirmer.Nests confirm confirm')
    (n : Nat) (chain : Chain) (options : RunOptions) (s : Session) :
    let plain := host.runWith confirm n chain options s
    let nesting := host'.runWith confirm' n chain options s
    (∀ (started : Host) (asking : Confirmer) (m : Nat) (ids : Chain) (how : RunOptions)
        (t : Session), t.app.guard.held = true →
      started.runWith asking m ids how t = (.skipped .alreadyRunning, (Action.debug
        s!"Formatting already in progress. Skipping {(t.document m).path.text}." t).2)) ∧
    nesting.1 = plain.1 ∧ nesting.2.unremarked = plain.2.unremarked ∧
    nesting.2.app.guard = s.app.guard := by
  intro plain nesting
  have hmatches : Action.Matches (AgreeWhile fun _ => True) (host.runWith confirm n chain options)
      (host'.runWith confirm' n chain options) :=
    runWith_matches (fun _ _ _ => rfl) (fun _ _ _ => trivial) h.matches
      (fun slot id policy => (hconfirm slot id policy).matches) n chain options
  obtain ⟨hreport, hsession, -⟩ := hmatches s s ⟨rfl, trivial⟩
  exact ⟨fun started asking m ids how t => runWith_held started asking m ids how, hreport, hsession,
    runWith_guard host' confirm' n chain options s⟩

/-- A formatter starts a run on the other document, and reports it. Meanwhile, another application
has the one that waits for it start runs. -/
theorem runWith_nested_twice :
    let chain : Chain := ⟨["fmtA"], by decide⟩
    let options : RunOptions := ⟨50, true, false, ⟨3, 10⟩⟩
    let format (x : Action RunReport) : Formatter :=
      { id := "fmtA"
        onDisk := false
        format := fun _ => ExceptT.mk (x >>= fun report => do
          Action.record (.nestedRun report)
          return .ok (.text "b")) }
    let plain : Host :=
      { formatters := .ofFormatters [format (pure (.skipped .alreadyRunning))]
        meanwhile := fun _ => Application.within (Application.outer (pure ())) }
    let start : Action RunReport := plain.run 1 chain options
    let nesting : Host :=
      { formatters := .ofFormatters [format start]
        meanwhile := fun _ => Application.within (Application.outer (start >>= fun _ => pure ())) }
    let s : Session :=
      { app := { settings := { layers := { workspace := some .empty } } }
        documents := [⟨⟨"/a.rs"⟩, "rust", "a", none, .memory, 1⟩,
          ⟨⟨"/b.rs"⟩, "rust", "a", none, .memory, 1⟩] }
    plain.Nests nesting ∧ Confirmer.Nests plain.poll nesting.poll ∧
      (nesting.run 0 chain options s).1.edit = .replace "b" ∧
      ((nesting.run 0 chain options s).2.document 1).text = "a" ∧
      (nesting.run 0 chain options s).2.app.guard = ⟨false⟩ ∧
      (start (held s)).1 = .skipped .alreadyRunning := by
  intro chain options format plain start nesting s
  have hget : ∀ (x : Action RunReport) (id : String),
      (Registry.ofFormatters [format x]).get? id = if "fmtA" = id then some (format x) else none :=
    fun x id => OrderedMap.get?_set .empty "fmtA" id (format x)
  have hanswer : ∀ report : RunReport, Action.Nests 0
      (do Action.record (.nestedRun report); return .ok (.text "b") :
        Action (Except Failure FormatOutput))
      (do Action.record (.nestedRun report); return .ok (.text "b")) :=
    fun report => .same (((agreeWhile_congruence _).matches_record _).bind fun _ =>
      Action.matches_pure _)
  have hnests : plain.Nests nesting :=
    { meanwhile := fun _ => .within (.outer (.run plain plain.poll 1 chain options
        (.same (Action.matches_pure ()))))
      kinds := fun id => by
        rw [hget, hget]
        split
        · rfl
        · rfl
      format := fun {id f f'} hf hf' request => by
        rw [hget] at hf hf'
        split at hf
        · next hid =>
          rw [if_pos hid] at hf'
          obtain rfl := Option.some.inj hf
          obtain rfl := Option.some.inj hf'
          exact .run plain plain.poll 1 chain options (hanswer (.skipped .alreadyRunning))
        · exact absurd hf (by simp) }
  obtain ⟨hskipped, hreport, hsession, hguard⟩ :=
    runWith_nested hnests hnests.poll 0 chain options s
  refine ⟨hnests, hnests.poll, ?_, ?_, hguard, ?_⟩
  · exact (congrArg RunReport.edit hreport).trans rfl
  · exact (congrArg (fun s => (s.document 1).text) hsession).trans rfl
  · exact congrArg Prod.fst (hskipped plain plain.poll 1 chain options (held s) rfl)

end Host

end FormatChain
