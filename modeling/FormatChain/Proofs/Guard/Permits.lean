import FormatChain.Guard
import Mathlib.Data.List.Basic

/-!
# Permits exclude each other

However guards are made, cloned, asked and given back, in any order and through any handles, each
guard has one permit at most, and it is held exactly while it has one.  So asking comes to something
exactly while there is no permit, and what is done with one guard is nothing to the others.

* `Guardroom.HasPermit` : somebody has a permit and did not give it back yet.
* `Guardhouse.Made`, `Guardhouse.make_made` : everything that a call can do.
* `Guardhouse.IsKept`, `Guardhouse.IsKept.after` : the flags of the guards tell the permits.
* `Guardhouse.Spares`, `Guardhouse.sameAbout_after` : calls on other guards.
* `Guardhouse.permits_exclude` : all of this at every point of a history.
-/

namespace FormatChain

/-- Who asked at an index has a permit of a guard, and did not give it back yet. -/
def Guardroom.HasPermit (room : Guardroom) (n index : Nat) : Prop :=
  room.permits[index]? = some (some n)

/-- What a list that is longer by one has at an index. -/
theorem getElem?_concat_eq_some_iff {α : Type} {items : List α} {last a : α} {index : Nat} :
    (items ++ [last])[index]? = some a ↔
      items[index]? = some a ∨ (index = items.length ∧ last = a) := by
  rcases Nat.lt_trichotomy index items.length with hlt | rfl | hgt
  · rw [List.getElem?_append_left hlt]
    exact ⟨.inl, fun h => h.resolve_right fun hlast => Nat.ne_of_lt hlt hlast.1⟩
  · rw [List.getElem?_concat_length, List.getElem?_eq_none (Nat.le_refl _)]
    simp
  · rw [List.getElem?_eq_none, List.getElem?_eq_none (Nat.le_of_lt hgt)]
    · simp [Nat.ne_of_gt hgt]
    · rw [List.length_append, List.length_singleton]
      exact hgt

namespace Guardroom

variable {guards : List Guard} {permits permits' : List (Option Nat)} {n m index : Nat}

/-! ## Guards and permits of a room -/

/-- No permit is one of two guards. -/
theorem HasPermit.guard_eq {room : Guardroom} (h : room.HasPermit n index)
    (h' : room.HasPermit m index) : n = m :=
  Option.some.inj (Option.some.inj (h.symm.trans h'))

theorem lt_length_of_held {room : Guardroom} (h : (room.guard n).held = true) :
    n < room.guards.length := by
  by_contra hout
  rw [guard, List.getD_eq_getElem?_getD, List.getElem?_eq_none (Nat.le_of_not_lt hout)] at h
  exact Bool.false_ne_true h

theorem guard_set_self (hn : n < guards.length) (g : Guard) :
    (mk (guards.set n g) permits).guard n = g := by
  rw [guard, List.getD_eq_getElem?_getD, List.getElem?_set_self hn, Option.getD_some]

theorem guard_set_ne (hne : n ≠ m) (g : Guard) :
    (mk (guards.set n g) permits').guard m = (mk guards permits).guard m := by
  rw [guard, guard, List.getD_eq_getElem?_getD, List.getD_eq_getElem?_getD,
    List.getElem?_set_ne hne]

/-- A new guard that nobody holds is as if it had always been there. -/
theorem guard_concat :
    (mk (guards ++ [⟨false⟩]) permits).guard m = (mk guards permits).guard m := by
  rw [guard, guard, List.getD_eq_getElem?_getD, List.getD_eq_getElem?_getD, List.getElem?_append]
  split
  · rfl
  · rename_i hout
    rw [List.getElem?_eq_none (Nat.le_of_not_lt hout)]
    cases m - guards.length <;> rfl

theorem hasPermit_concat (permit : Option Nat) :
    (mk guards (permits ++ [permit])).HasPermit n index ↔
      (mk guards permits).HasPermit n index ∨ (index = permits.length ∧ permit = some n) :=
  getElem?_concat_eq_some_iff

theorem hasPermit_set_none {returned : Nat} :
    (mk guards (permits.set returned none)).HasPermit n index ↔
      index ≠ returned ∧ (mk guards permits).HasPermit n index := by
  rw [HasPermit, List.getElem?_set]
  split
  · rename_i hreturned
    split <;> simp [hreturned]
  · rename_i hother
    exact (and_iff_right (Ne.symm hother)).symm

end Guardroom

namespace Guardhouse

variable {house : Guardhouse} {n : Nat}

/-! ## What a call can do -/

/-- The guard that a call is on, if there is one; a new one is the next. -/
def guardOf? (house : Guardhouse) : Call → Option Nat
  | .create => some house.guards.length
  | .clone handle | .acquire handle => house.handles[handle]?
  | .release index => house.permits[index]?.join

/-- What a call comes to, and the house after it. -/
inductive Made (house : Guardhouse) : Call → Bool × Guardhouse → Prop
  /-- The call is on no guard: nothing happens. -/
  | idle {call : Call} (hnone : house.guardOf? call = none) : Made house call (false, house)
  /-- There is a new guard that nobody holds. -/
  | created :
    Made house .create
      (true, ⟨⟨house.guards ++ [⟨false⟩], house.permits⟩, house.handles ++ [house.guards.length]⟩)
  /-- There is another handle. -/
  | cloned {handle n : Nat} (hhandle : house.handles[handle]? = some n) :
    Made house (.clone handle)
      (true, ⟨⟨house.guards, house.permits⟩, house.handles ++ [n]⟩)
  /-- Nobody held the guard: there is a permit. -/
  | given {handle n : Nat} (hhandle : house.handles[handle]? = some n)
    (hfree : (house.guard n).held = false) :
    Made house (.acquire handle)
      (true, ⟨⟨house.guards.set n ⟨true⟩, house.permits ++ [some n]⟩, house.handles⟩)
  /-- Somebody held the guard: there is no permit. -/
  | refused {handle n : Nat} (hhandle : house.handles[handle]? = some n)
    (hheld : (house.guard n).held = true) :
    Made house (.acquire handle)
      (false, ⟨⟨house.guards, house.permits ++ [none]⟩, house.handles⟩)
  /-- The permit is given back. -/
  | returned {index n : Nat} (hpermit : house.HasPermit n index) :
    Made house (.release index)
      (true, ⟨⟨house.guards.set n ⟨false⟩, house.permits.set index none⟩, house.handles⟩)

theorem make_made (house : Guardhouse) (call : Call) : house.Made call (house.make call) := by
  cases call with
  | create => exact .created
  | clone handle =>
    cases hhandle : house.handles[handle]? with
    | none =>
      rw [make, hhandle]
      exact .idle hhandle
    | some n =>
      rw [make, hhandle]
      exact .cloned hhandle
  | acquire handle =>
    cases hhandle : house.handles[handle]? with
    | none =>
      rw [make, hhandle]
      exact .idle hhandle
    | some n =>
      simp only [make, hhandle, Guardroom.acquire, Guard.tryAcquire?]
      cases hheld : (house.guard n).held with
      | false => exact .given hhandle hheld
      | true => exact .refused hhandle hheld
  | release index =>
    simp only [make, Guardroom.release]
    split
    · exact .returned ‹_›
    · rename_i hnone
      refine .idle ?_
      cases hpermit : house.permits[index]? with
      | none => rw [guardOf?, hpermit, Option.join_none]
      | some permit =>
        cases permit with
        | none => rw [guardOf?, hpermit, Option.join_some]
        | some n => exact absurd hpermit (hnone n)

/-! ## The flags tell the permits -/

/-- A guard is held exactly while there is a permit of it, and then there is one only. -/
structure IsKept (house : Guardhouse) : Prop where
  held_iff (n : Nat) : (house.guard n).held = true ↔ ∃ index, house.HasPermit n index
  unique {n i j : Nat} : house.HasPermit n i → house.HasPermit n j → i = j
  /-- Every handle is one of a guard. -/
  exists_guard {handle n : Nat} : house.handles[handle]? = some n → n < house.guards.length

theorem isKept_empty : empty.IsKept where
  held_iff _ := ⟨fun h => absurd h Bool.false_ne_true, fun ⟨_, h⟩ => nomatch h⟩
  unique h _ := nomatch h
  exists_guard h := nomatch h

/-- Nobody has a permit of a guard that is not held. -/
theorem IsKept.not_hasPermit (h : house.IsKept) (hfree : (house.guard n).held = false)
    (index : Nat) : ¬ house.HasPermit n index := fun hpermit =>
  Bool.false_ne_true (hfree.symm.trans ((h.held_iff n).2 ⟨index, hpermit⟩))

theorem IsKept.created (h : house.IsKept) :
    IsKept
      ⟨⟨house.guards ++ [⟨false⟩], house.permits⟩, house.handles ++ [house.guards.length]⟩ where
  held_iff m := by
    rw [Guardroom.guard_concat]
    exact h.held_iff m
  unique := h.unique
  exists_guard hm := by
    rw [List.length_append]
    rcases getElem?_concat_eq_some_iff.1 hm with hm | ⟨-, rfl⟩
    · exact Nat.lt_succ_of_lt (h.exists_guard hm)
    · exact Nat.lt_succ_self _

theorem IsKept.cloned (h : house.IsKept) {handle : Nat}
    (hhandle : house.handles[handle]? = some n) :
    IsKept ⟨⟨house.guards, house.permits⟩, house.handles ++ [n]⟩ where
  held_iff := h.held_iff
  unique := h.unique
  exists_guard hm := by
    rcases getElem?_concat_eq_some_iff.1 hm with hm | ⟨-, rfl⟩
    · exact h.exists_guard hm
    · exact h.exists_guard hhandle

/-- Who is refused leaves nothing but the trace of having asked. -/
theorem hasPermit_refused {room : Guardroom} {index : Nat} :
    (Guardroom.mk room.guards (room.permits ++ [none])).HasPermit n index ↔
      room.HasPermit n index := by
  rw [Guardroom.hasPermit_concat]
  exact or_iff_left fun hlast => nomatch hlast.2

theorem IsKept.refused (h : house.IsKept) :
    IsKept ⟨⟨house.guards, house.permits ++ [none]⟩, house.handles⟩ where
  held_iff m := (h.held_iff m).trans (exists_congr fun _ => hasPermit_refused.symm)
  unique hi hj := h.unique (hasPermit_refused.1 hi) (hasPermit_refused.1 hj)
  exists_guard := h.exists_guard

theorem IsKept.given (h : house.IsKept) {handle : Nat} (hhandle : house.handles[handle]? = some n)
    (hfree : (house.guard n).held = false) :
    IsKept ⟨⟨house.guards.set n ⟨true⟩, house.permits ++ [some n]⟩, house.handles⟩ where
  held_iff m := by
    by_cases hm : n = m
    · subst hm
      rw [Guardroom.guard_set_self (h.exists_guard hhandle)]
      exact iff_of_true rfl ⟨_, Guardroom.hasPermit_concat _ |>.2 (.inr ⟨rfl, rfl⟩)⟩
    · rw [Guardroom.guard_set_ne hm]
      simp only [Guardroom.hasPermit_concat, Option.some_inj, hm, and_false, or_false]
      exact h.held_iff m
  unique {m i j} hi hj := by
    rw [Guardroom.hasPermit_concat] at hi hj
    -- A permit from before beside the new one would be one of a guard that nobody held.
    rcases hi with hi | ⟨rfl, hm⟩ <;> rcases hj with hj | ⟨rfl, hm'⟩
    · exact h.unique hi hj
    · exact absurd hi (Option.some.inj hm' ▸ h.not_hasPermit hfree i)
    · exact absurd hj (Option.some.inj hm ▸ h.not_hasPermit hfree j)
    · rfl
  exists_guard hm := Nat.lt_of_lt_of_eq (h.exists_guard hm) List.length_set.symm

theorem IsKept.returned (h : house.IsKept) {index : Nat} (hpermit : house.HasPermit n index) :
    IsKept ⟨⟨house.guards.set n ⟨false⟩, house.permits.set index none⟩, house.handles⟩ where
  held_iff m := by
    by_cases hm : n = m
    · subst hm
      have hheld := (h.held_iff n).2 ⟨index, hpermit⟩
      rw [Guardroom.guard_set_self (Guardroom.lt_length_of_held hheld)]
      -- The permit was the only one of its guard, so that none is left.
      refine iff_of_false Bool.false_ne_true fun ⟨other, hother⟩ => ?_
      obtain ⟨hne, hother⟩ := Guardroom.hasPermit_set_none.1 hother
      exact hne (h.unique hother hpermit)
    · rw [Guardroom.guard_set_ne hm, h.held_iff m]
      refine exists_congr fun other => ?_
      rw [Guardroom.hasPermit_set_none]
      refine (and_iff_right_of_imp fun hother => ?_).symm
      rintro rfl
      exact hm (hpermit.guard_eq hother)
  unique hi hj :=
    h.unique (Guardroom.hasPermit_set_none.1 hi).2 (Guardroom.hasPermit_set_none.1 hj).2
  exists_guard hm := Nat.lt_of_lt_of_eq (h.exists_guard hm) List.length_set.symm

/-- Every call leaves the flags in order. -/
theorem IsKept.make (h : house.IsKept) (call : Call) : (house.make call).2.IsKept := by
  have hmade := house.make_made call
  generalize house.make call = made at hmade
  cases hmade with
  | idle hnone => exact h
  | created => exact h.created
  | cloned hhandle => exact h.cloned hhandle
  | given hhandle hfree => exact h.given hhandle hfree
  | refused => exact h.refused
  | returned hpermit => exact h.returned hpermit

/-- At every point the flags tell the permits. -/
theorem IsKept.after (h : house.IsKept) (calls : List Call) : (house.after calls).IsKept := by
  induction calls generalizing house with
  | nil => exact h
  | cons call rest ih => exact ih (h.make call)

/-! ## Calls on other guards -/

/-- Nothing about a guard has changed: neither the guard, nor its permits, nor its handles. -/
structure SameAbout (n : Nat) (house house' : Guardhouse) : Prop where
  guard : house'.guard n = house.guard n
  permits (index : Nat) : house'.HasPermit n index ↔ house.HasPermit n index
  handles (handle : Nat) : house'.handles[handle]? = some n ↔ house.handles[handle]? = some n

theorem SameAbout.refl (n : Nat) (house : Guardhouse) : SameAbout n house house :=
  ⟨rfl, fun _ => .rfl, fun _ => .rfl⟩

theorem SameAbout.trans {house' house'' : Guardhouse} (h : SameAbout n house house')
    (h' : SameAbout n house' house'') : SameAbout n house house'' where
  guard := h'.guard.trans h.guard
  permits index := (h'.permits index).trans (h.permits index)
  handles handle := (h'.handles handle).trans (h.handles handle)

theorem sameAbout_refused (house : Guardhouse) (n : Nat) :
    SameAbout n house ⟨⟨house.guards, house.permits ++ [none]⟩, house.handles⟩ where
  guard := rfl
  permits _ := hasPermit_refused
  handles _ := .rfl

theorem concat_handle_iff {m handle : Nat} (hm : some m ≠ some n) :
    (house.handles ++ [m])[handle]? = some n ↔ house.handles[handle]? = some n := by
  rw [getElem?_concat_eq_some_iff]
  exact or_iff_left fun hlast => hm (congrArg some hlast.2)

/-- A call on another guard changes nothing about this one. -/
theorem sameAbout_make {call : Call} (hother : house.guardOf? call ≠ some n) :
    SameAbout n house (house.make call).2 := by
  have hmade := house.make_made call
  generalize house.make call = made at hmade
  cases hmade with
  | idle hnone => exact .refl n house
  | created => exact ⟨Guardroom.guard_concat, fun _ => .rfl, fun _ => concat_handle_iff hother⟩
  | cloned hhandle =>
    rw [guardOf?, hhandle] at hother
    exact ⟨rfl, fun _ => .rfl, fun _ => concat_handle_iff hother⟩
  | given hhandle hfree =>
    rw [guardOf?, hhandle] at hother
    refine ⟨Guardroom.guard_set_ne (fun hm => hother (congrArg some hm)) _, fun index => ?_,
      fun _ => .rfl⟩
    exact (Guardroom.hasPermit_concat _).trans (or_iff_left fun hlast => hother hlast.2)
  | refused => exact sameAbout_refused house n
  | returned hpermit =>
    rename_i index m
    rw [guardOf?, hpermit, Option.join_some] at hother
    refine ⟨Guardroom.guard_set_ne (fun hm => hother (congrArg some hm)) _, fun other => ?_,
      fun _ => .rfl⟩
    refine Guardroom.hasPermit_set_none.trans (and_iff_right_of_imp fun hown => ?_)
    rintro rfl
    exact hother (congrArg some (hpermit.guard_eq hown))

/-- None of the calls is on this guard when it is made. -/
def Spares (n : Nat) : Guardhouse → List Call → Prop
  | _, [] => True
  | house, call :: rest => house.guardOf? call ≠ some n ∧ Spares n (house.make call).2 rest

theorem sameAbout_after {calls : List Call} (h : Spares n house calls) :
    SameAbout n house (house.after calls) := by
  induction calls generalizing house with
  | nil => exact .refl n house
  | cons call rest ih => exact (sameAbout_make h.1).trans (ih h.2)

/-! ## Asking -/

variable {handle : Nat}

theorem isHeld_eq (hhandle : house.handles[handle]? = some n) :
    house.isHeld handle = (house.guard n).held := by
  rw [isHeld, hhandle]
  rfl

/-- Who asks through a handle of a guard has a permit if nobody held it, and changes nothing if
somebody did. -/
theorem make_acquire_cases (hhandle : house.handles[handle]? = some n) :
    let asked := house.make (.acquire handle)
    ((house.guard n).held = false ∧ asked.1 = true ∧
        asked.2.HasPermit n house.permits.length) ∨
      ((house.guard n).held = true ∧ asked.1 = false ∧ ∀ m, SameAbout m house asked.2) := by
  intro asked
  have hmade : house.Made (.acquire handle) asked := house.make_made _
  clear_value asked
  cases hmade with
  | idle hnone => exact absurd (hhandle.symm.trans hnone) (Option.some_ne_none n)
  | given hhandle' hfree =>
    obtain rfl := Option.some.inj (hhandle'.symm.trans hhandle)
    exact .inl ⟨hfree, rfl, (Guardroom.hasPermit_concat _).2 (.inr ⟨rfl, rfl⟩)⟩
  | refused hhandle' hheld =>
    obtain rfl := Option.some.inj (hhandle'.symm.trans hhandle)
    exact .inr ⟨hheld, rfl, sameAbout_refused house⟩

/-- **Permits exclude each other.** After any calls, through whatever handles and in whatever order,
and for every handle of a guard: there is one permit of the guard at most, and through this handle
the guard is seen held exactly while there is one. Who asks through it gets a permit exactly if
there is none, and then has it; whoever gets none has changed nothing about any guard. Whatever is
done with other guards after that, be they made, cloned, asked or given back, changes nothing about
this one. -/
theorem permits_exclude (calls : List Call) (n handle : Nat)
    (hhandle : (empty.after calls).handles[handle]? = some n) :
    let house := empty.after calls
    let asked := house.make (.acquire handle)
    (∀ i j, house.HasPermit n i → house.HasPermit n j → i = j) ∧
      (house.isHeld handle = true ↔ ∃ i, house.HasPermit n i) ∧
      (asked.1 = true ↔ ¬∃ i, house.HasPermit n i) ∧
      (asked.1 = true → asked.2.HasPermit n house.permits.length) ∧
      (asked.1 = false → ∀ m, SameAbout m house asked.2) ∧
      ∀ others, house.Spares n others → SameAbout n house (house.after others) := by
  intro house asked
  have hkept : house.IsKept := isKept_empty.after calls
  refine ⟨fun i j => hkept.unique, ?_, ?_⟩
  · rw [isHeld_eq hhandle]
    exact hkept.held_iff n
  rw [← hkept.held_iff n]
  rcases make_acquire_cases hhandle with ⟨hfree, hgiven, hpermit⟩ | ⟨hheld, hrefused, hsame⟩
  · refine ⟨iff_of_true hgiven (by rw [hfree]; exact Bool.false_ne_true), fun _ => hpermit,
      fun hrefused => ?_, fun _ => sameAbout_after⟩
    exact absurd (hgiven.symm.trans hrefused) Bool.false_ne_true.symm
  · refine ⟨iff_of_false ?_ (not_not_intro hheld), fun hgiven => ?_, fun _ => hsame,
      fun _ => sameAbout_after⟩
    · rw [hrefused]
      exact Bool.false_ne_true
    · exact absurd (hrefused.symm.trans hgiven) Bool.false_ne_true

/-- A guard with a clone that is asked while the guard is held, beside another guard. -/
theorem permits_exclude_clone :
    let house := empty.after [.create, .clone 0, .create, .acquire 0, .acquire 1]
    let others : List Call := [.acquire 2, .clone 2, .acquire 3, .release 2, .create]
    house.handles[1]? = some 0 ∧ house.Spares 0 others ∧ house.HasPermit 0 0 ∧
      house.isHeld 1 = true ∧ (house.make (.acquire 1)).1 = false ∧
      (∀ m, SameAbout m house (house.make (.acquire 1)).2) ∧
      SameAbout 0 house (house.after others) := by
  intro house others
  have hhandle : house.handles[1]? = some 0 := rfl
  have hspares : house.Spares 0 others := by
    simp only [others, Spares]
    decide
  have hpermit : house.HasPermit 0 0 := rfl
  obtain ⟨-, hheld, hasks, -, hrefused, hothers⟩ :=
    permits_exclude [.create, .clone 0, .create, .acquire 0, .acquire 1] 0 1 hhandle
  have hnone : (house.make (.acquire 1)).1 = false :=
    Bool.eq_false_iff.2 fun hgiven => hasks.1 hgiven ⟨0, hpermit⟩
  exact ⟨hhandle, hspares, hpermit, hheld.2 ⟨0, hpermit⟩, hnone, hrefused hnone,
    hothers others hspares⟩

end Guardhouse

end FormatChain
