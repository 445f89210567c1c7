import FormatChain.Proofs.Disk.Storing
import FormatChain.Proofs.Session.Actions
import FormatChain.Session.Files

/-!
# Reading and writing in a session

Files kept in memory and files of the operating system obey one law: what was written under a path
is read there, and can be written over.

* `Session.read`, `Session.write` : using a file of either kind.
* `Session.HoldsTexts` : the path is that of a file that can be read and is no device.
* `Session.read_write`, `Session.write_again` : the law.
* `Attempt.run_readText`, `Attempt.run_writeText` : the attempts do just that.
-/

namespace FormatChain

namespace Session

variable {s s' : Session} {p : Path} {text : String} {disk : Disk}

/-- The text under a path. -/
def read (s : Session) (p : Path) : Except Failure String :=
  if s.inMemory then s.readMemory p else s.readMachine p

/-- The disk after a text was written under a path. -/
def write (s : Session) (p : Path) (text : String) : Except Failure Disk :=
  if s.inMemory then s.writeMemory p text else s.writeMachine p text

/-- Whatever is written under the path can be read there: it is not marked against reading, and does
not lead to a device. -/
def HoldsTexts (s : Session) (p : Path) : Prop :=
  if s.inMemory then s.disk.isUnreadable p = false
  else ∀ place, s.disk.locateTarget s.cwd p = .ok place → Disk.Keeps place

/-- Every text can be written under the path. -/
def IsWritable (s : Session) (p : Path) : Prop := ∀ text, ∃ disk, s.write p text = .ok disk

/-! ## What is read and written -/

theorem WithEvents.read (h : WithEvents s s') (p : Path) : s'.read p = s.read p := by
  obtain ⟨_, rfl⟩ := h
  rfl

theorem WithEvents.write (h : WithEvents s s') (p : Path) (text : String) :
    s'.write p text = s.write p text := by
  obtain ⟨_, rfl⟩ := h
  rfl

theorem WithEvents.holdsTexts (h : WithEvents s s') (hp : s.HoldsTexts p) : s'.HoldsTexts p := by
  obtain ⟨_, rfl⟩ := h
  exact hp

theorem WithEvents.isWritable (h : WithEvents s s') (hp : s.IsWritable p) : s'.IsWritable p :=
  fun text => by rw [h.write]; exact hp text

theorem writeMemory_eq (h : s.writeMemory p text = .ok disk) : disk = s.disk.put p text := by
  rw [writeMemory] at h
  split at h
  · exact absurd h (by simp)
  · exact (Except.ok.inj h).symm

theorem mapError_eq_ok {ε ε' α : Type} {x : Except ε α} {f : ε → ε'} {a : α} :
    x.mapError f = .ok a ↔ x = .ok a := by
  cases x with
  | ok b =>
    constructor
    · intro h
      exact congrArg Except.ok (Except.ok.inj h)
    · intro h
      exact congrArg Except.ok (Except.ok.inj h)
  | error e =>
    constructor
    · intro h
      cases h
    · intro h
      cases h

/-- A text is written to a file of the operating system at the place that the path leads to. -/
theorem writeMachine_eq (h : s.writeMachine p text = .ok disk)
    (hk : ∀ place, s.disk.locateTarget s.cwd p = .ok place → Disk.Keeps place) :
    ∃ place, Disk.Keeps place ∧ s.disk.locateTarget s.cwd p = .ok place ∧
      disk = s.disk.putBytes place (Text.encodeUtf8 text) := by
  have hw : s.disk.overwrite s.cwd p text = .ok disk := mapError_eq_ok.1 h
  obtain ⟨place, hp⟩ := Disk.locateTarget_of_overwrite hw
  rw [Disk.overwrite_of_locateTarget (hk place hp) hp] at hw
  exact ⟨place, hk place hp, hp, (Except.ok.inj hw).symm⟩

/-- A file is not written because it is marked against that, or because the operating system refuses
it. -/
theorem write_eq_error {e : Failure} (h : s.write p text = .error e) :
    e = .fileReadOnly p ∨ ∃ cause, e = .writeRefused p cause := by
  unfold write at h
  split at h
  · rw [writeMemory] at h
    split at h
    · exact .inl (Except.error.inj h).symm
    · exact absurd h (by simp)
  · rw [writeMachine] at h
    cases hw : s.disk.overwrite s.cwd p text with
    | ok disk =>
      rw [hw] at h
      cases h
    | error cause =>
      rw [hw] at h
      exact .inr ⟨cause, (Except.error.inj h).symm⟩

/-- **What was written is read.** -/
theorem read_write (hp : s.HoldsTexts p) (hw : s.write p text = .ok disk) :
    { s with disk }.read p = .ok text := by
  unfold HoldsTexts at hp
  unfold write at hw
  unfold read
  change (if s.inMemory then _ else _) = _
  split at hp
  · next hm =>
    rw [if_pos hm] at hw
    obtain rfl := writeMemory_eq hw
    have htext : (s.disk.put p text).text? p = some text :=
      (Disk.text?_put s.disk p p text).trans (if_pos (Path.same_refl p))
    have hread : (s.disk.put p text).isUnreadable p = false := hp
    rw [if_pos hm]
    simp [readMemory, htext, hread]
  · next hm =>
    rw [if_neg hm] at hw
    obtain ⟨place, hk, hplace, rfl⟩ := writeMachine_eq hw hp
    rw [if_neg hm]
    exact mapError_eq_ok.2 (Disk.openText_putBytes hk hplace text)

/-- The path goes on to hold texts after one was written. -/
theorem HoldsTexts.write (hp : s.HoldsTexts p) (hw : s.write p text = .ok disk) :
    { s with disk }.HoldsTexts p := by
  unfold HoldsTexts at hp ⊢
  unfold Session.write at hw
  change if s.inMemory then _ else _
  split at hp
  · next hm =>
    rw [if_pos hm] at hw ⊢
    obtain rfl := writeMemory_eq hw
    exact hp
  · next hm =>
    rw [if_neg hm] at hw ⊢
    obtain ⟨place, hk, hplace, rfl⟩ := writeMachine_eq hw hp
    intro other hother
    have hsame := (Disk.stores_putBytes hk text).locateTarget hplace
    rw [show place = other from Except.ok.inj (hsame.symm.trans hother)] at hk
    exact hk

/-- A file that was there and could be written can be written over. -/
theorem IsWritable.write {before : String} (hw : s.IsWritable p) (hr : s.read p = .ok before)
    (hp : s.HoldsTexts p) (h : s.write p text = .ok disk) : { s with disk }.IsWritable p := by
  intro other
  obtain ⟨_, hother⟩ := hw other
  unfold HoldsTexts at hp
  unfold Session.write at h hother
  unfold Session.write
  change ∃ disk, (if s.inMemory then _ else _) = _
  split at hp
  · next hm =>
    rw [if_pos hm] at h hother ⊢
    obtain rfl := writeMemory_eq h
    have hfile : s.disk.hasFile p = true := by
      unfold Session.read at hr
      rw [if_pos hm, readMemory] at hr
      cases ht : s.disk.text? p with
      | none => simp [ht] at hr
      | some _ => simp [Disk.hasFile, ht]
    have hmark : s.disk.isReadOnly p = false := by
      rw [writeMemory] at hother
      split at hother
      · exact absurd hother (by simp)
      · next hro => simpa [isReadOnly, hm, hfile] using hro
    refine ⟨_, if_neg ?_⟩
    have hmark' : (s.disk.put p text).isReadOnly p = false := hmark
    change ¬ (if s.inMemory then (s.disk.put p text).hasFile p && (s.disk.put p text).isReadOnly p
      else _) = true
    rw [if_pos hm, hmark', Bool.and_false]
    exact Bool.false_ne_true
  · next hm =>
    rw [if_neg hm] at h ⊢
    obtain ⟨place, hk, hplace, rfl⟩ := writeMachine_eq h hp
    have hsame := (Disk.stores_putBytes hk text).locateTarget hplace
    exact ⟨_, mapError_eq_ok.2 (Disk.overwrite_of_locateTarget hk hsame other)⟩

end Session

/-! ## The attempts -/

namespace Attempt

open Session (WithEvents)

/-- Reading a file finds what is under its path, and changes nothing. -/
theorem run_readText (p : Path) (s : Session) :
    ((readText p).run s).1 = s.read p ∧ WithEvents s ((readText p).run s).2 := by
  rw [readText, run_bind_ok (run_get s), Session.read]
  by_cases hm : s.inMemory = true
  · rw [if_pos hm, if_pos hm]
    exact ⟨rfl, refl s⟩
  · rw [if_neg hm, if_neg hm, run_bind_ok (run_lift _ s)]
    exact ⟨rfl, Action.debug_onlySays _ s⟩

/-- What a text that is written leaves behind. -/
theorem run_writeText (p : Path) (text : String) (s : Session) :
    ∃ s', WithEvents s s' ∧
      (writeText p text).run s =
        match s.write p text with
        | .ok disk => (.ok (), { s' with disk, history := .wrote p text :: s'.history })
        | .error e => (.error e, s') := by
  by_cases hm : s.inMemory = true
  · refine ⟨s, refl s, ?_⟩
    simp only [writeText, run_bind, run_get, Session.write, hm, if_true]
    cases s.writeMemory p text <;> rfl
  · refine ⟨(Action.debug s!"Writing file: {p.text}" s).2, Action.debug_onlySays _ s, ?_⟩
    simp only [writeText, run_bind, run_get, Session.write, hm]
    cases s.writeMachine p text <;> rfl

/-- Reading a text is remarked on, and changes nothing. -/
theorem readText_leads {R : Session → Session → Prop} [IsPreorder Session R]
    (h : Session.AllowsWords R) (p : Path) : Leads R (readText p) := by
  refine Leads.bind (fun s => refl s) fun s => ?_
  split
  · exact fun s => refl s
  · exact Leads.bind (h.debug _) fun _ => fun s => refl s

/-- Writing a text is remarked on, and is recorded if the file changes. -/
theorem writeText_leads {R : Session → Session → Prop} [IsPreorder Session R] {p : Path}
    {text : String} (hsaid : Action.Leads R (Action.debug s!"Writing file: {p.text}"))
    (hwrote : ∀ disk s, R s { s with disk, history := .wrote p text :: s.history }) :
    Leads R (writeText p text) := by
  intro s
  by_cases hm : s.inMemory = true
  · simp only [writeText, run_bind, run_get, hm, if_true]
    cases s.writeMemory p text with
    | ok disk => exact hwrote disk s
    | error e => exact refl s
  · simp only [writeText, run_bind, run_get, hm]
    cases s.writeMachine p text with
    | ok disk => exact IsTrans.trans _ _ _ (hsaid s) (hwrote disk _)
    | error e => exact hsaid s

end Attempt

end FormatChain
