import FormatChain.Proofs.Run.Editor

/-!
# How often a run looks

A run looks whether a formatter became the active one, and sleeps between two looks.  The sessions
in which it can look are those after one sleep, two sleeps and so on, whatever goes on during them.
It looks in them one after the other until it sees the formatter, or has looked often enough.

* `Host.afterSleeps` : the session after so many sleeps.
* `Host.lookTelling`, `Host.pollTelling` : looking, and telling in which sessions.
* `Host.lookTelling_of_seen`, `Host.lookTelling_of_unseen` : where looking ends.
* `Host.firstSeen`, `Host.pollTelling_eq` : the same by the number of the first look that sees the
  formatter.
-/

namespace FormatChain.Host

variable {host : Host} {slot : Slot} {id : String} {interval before more : Nat} {s : Session}

/-! ## The sessions in which a run can look -/

/-- The session after so many sleeps. -/
def afterSleeps (host : Host) (interval : Nat) (s : Session) : Nat → Session
  | 0 => s
  | k + 1 => (host.sleep interval (host.afterSleeps interval s k)).2

/-- Sleeping once and starting there is the same as starting here and sleeping later. -/
theorem afterSleeps_succ (host : Host) (interval : Nat) (s : Session) (k : Nat) :
    host.afterSleeps interval s (k + 1) =
      host.afterSleeps interval (host.sleep interval s).2 k := by
  induction k with
  | zero => rfl
  | succ k ih => rw [afterSleeps, ih, afterSleeps]

/-- Whether the formatter is the active one after so many sleeps. -/
def seenAfter (host : Host) (slot : Slot) (id : String) (interval : Nat) (s : Session)
    (k : Nat) : Bool :=
  slot.isActive id (host.afterSleeps interval s k).app.settings

theorem seenAfter_succ (host : Host) (slot : Slot) (id : String) (interval : Nat) (s : Session)
    (k : Nat) :
    host.seenAfter slot id interval s (k + 1) =
      host.seenAfter slot id interval (host.sleep interval s).2 k := by
  rw [seenAfter, afterSleeps_succ, seenAfter]

/-- The sessions of so many looks. -/
def looks (host : Host) (interval : Nat) (s : Session) (count : Nat) : List Session :=
  (List.range count).map (host.afterSleeps interval s)

theorem looks_succ (host : Host) (interval : Nat) (s : Session) (count : Nat) :
    host.looks interval s (count + 1) =
      s :: host.looks interval (host.sleep interval s).2 count := by
  rw [looks, looks, List.range_succ_eq_map, List.map_cons, List.map_map]
  congr 1
  apply List.map_congr_left
  intro k _
  exact afterSleeps_succ host interval s k

/-! ## Looking and telling of it -/

/-- Looks for a formatter as a run does, and tells in which sessions. -/
def lookTelling (host : Host) (slot : Slot) (id : String) (interval : Nat) :
    Nat → Nat → Action (Bool × List Session)
  | before, 0 => do
    let here ← get
    let seen ← see slot id before
    return (seen, [here])
  | before, more + 1 => do
    let here ← get
    if ← see slot id before then return (true, [here])
    else
      host.sleep interval
      let (seen, others) ← host.lookTelling slot id interval (before + 1) more
      return (seen, here :: others)

/-- Looks as often as a policy says, and tells in which sessions. -/
def pollTelling (host : Host) (slot : Slot) (id : String) (policy : ActivationPolicy) :
    Action (Bool × List Session) :=
  match policy.attempts with
  | 0 => return (false, [])
  | more + 1 => host.lookTelling slot id policy.interval 0 more

theorem look_eq_lookTelling (host : Host) (slot : Slot) (id : String)
    (interval before more : Nat) (s : Session) :
    host.look slot id interval before more s =
      let told := host.lookTelling slot id interval before more s
      (told.1.1, told.2) := by
  induction more generalizing before s with
  | zero => rfl
  | succ more ih =>
    rw [look, lookTelling, Action.bind_apply, Action.bind_apply, Action.get_apply,
      Action.bind_apply]
    by_cases hseen : (see slot id before s).1 = true
    · rw [if_pos hseen, if_pos hseen]
      rfl
    · rw [if_neg hseen, if_neg hseen, Action.bind_apply, ih]
      rfl

/-- **Telling of the looks changes nothing.** -/
theorem poll_eq_pollTelling (host : Host) (slot : Slot) (id : String) (policy : ActivationPolicy)
    (s : Session) :
    host.poll slot id policy s =
      let told := host.pollTelling slot id policy s
      (told.1.1, told.2) := by
  obtain ⟨_ | more, interval⟩ := policy
  · rfl
  · exact look_eq_lookTelling host slot id interval 0 more s

/-! ## Where looking ends -/

/-- The session after the formatter was seen, which is remarked on if it was not seen at the first
look. -/
def remarkSeen (id : String) (before : Nat) (s : Session) : Session :=
  if before = 0 then s
  else (Action.debug s!"Confirmed '{id}' as active after {before + 1} attempts." s).2

theorem see_of_active (h : slot.isActive id s.app.settings = true) :
    see slot id before s = (true, remarkSeen id before s) := by
  rw [see, Action.bind_apply, Action.settings_apply]
  simp only [h, Bool.true_and, remarkSeen, decide_eq_true_eq]
  cases before with
  | zero => rfl
  | succ before =>
    rw [if_pos (Nat.succ_pos before), if_neg (Nat.succ_ne_zero before)]
    rfl

theorem see_of_inactive (h : slot.isActive id s.app.settings = false) :
    see slot id before s = (false, s) := by
  rw [see, Action.bind_apply, Action.settings_apply]
  simp only [h, Bool.false_and, Bool.false_eq_true, if_false]
  rfl

theorem lookTelling_of_active (h : slot.isActive id s.app.settings = true) :
    host.lookTelling slot id interval before more s = ((true, [s]), remarkSeen id before s) := by
  have hsee : see slot id before s = (true, remarkSeen id before s) := see_of_active h
  cases more with
  | zero =>
    rw [lookTelling, Action.bind_apply, Action.get_apply, Action.bind_apply]
    simp only [hsee]
    rfl
  | succ more =>
    rw [lookTelling, Action.bind_apply, Action.get_apply, Action.bind_apply]
    simp only [hsee, if_true]
    rfl

theorem lookTelling_zero_of_inactive (h : slot.isActive id s.app.settings = false) :
    host.lookTelling slot id interval before 0 s = ((false, [s]), s) := by
  rw [lookTelling, Action.bind_apply, Action.get_apply, Action.bind_apply]
  simp only [see_of_inactive h]
  rfl

theorem lookTelling_succ_of_inactive (h : slot.isActive id s.app.settings = false) :
    host.lookTelling slot id interval before (more + 1) s =
      let told := host.lookTelling slot id interval (before + 1) more (host.sleep interval s).2
      ((told.1.1, s :: told.1.2), told.2) := by
  rw [lookTelling, Action.bind_apply, Action.get_apply, Action.bind_apply]
  simp only [see_of_inactive h, Bool.false_eq_true, if_false]
  rfl

/-- Looking ends at the first look that sees the formatter. -/
theorem lookTelling_of_seen {k : Nat} (hk : k ≤ more)
    (hseen : host.seenAfter slot id interval s k = true)
    (hbefore : ∀ i < k, host.seenAfter slot id interval s i = false) :
    host.lookTelling slot id interval before more s =
      ((true, host.looks interval s (k + 1)),
        remarkSeen id (before + k) (host.afterSleeps interval s k)) := by
  induction k generalizing before more s with
  | zero => exact lookTelling_of_active hseen
  | succ k ih =>
    obtain ⟨more, rfl⟩ : ∃ fewer, more = fewer + 1 := ⟨more - 1, by omega⟩
    have hfirst : slot.isActive id s.app.settings = false := hbefore 0 (Nat.succ_pos k)
    have hlater : host.lookTelling slot id interval (before + 1) more (host.sleep interval s).2 =
        ((true, host.looks interval (host.sleep interval s).2 (k + 1)),
          remarkSeen id (before + 1 + k)
            (host.afterSleeps interval (host.sleep interval s).2 k)) := by
      refine ih (Nat.le_of_succ_le_succ hk) ?_ ?_
      · rw [← seenAfter_succ]
        exact hseen
      · intro i hi
        rw [← seenAfter_succ]
        exact hbefore (i + 1) (Nat.succ_lt_succ hi)
    rw [lookTelling_succ_of_inactive hfirst, hlater, looks_succ host interval s (k + 1),
      afterSleeps_succ, Nat.add_assoc, Nat.add_comm 1 k]

/-- If no look sees the formatter all of them are made. -/
theorem lookTelling_of_unseen
    (hunseen : ∀ i ≤ more, host.seenAfter slot id interval s i = false) :
    host.lookTelling slot id interval before more s =
      ((false, host.looks interval s (more + 1)), host.afterSleeps interval s more) := by
  have hfirst : slot.isActive id s.app.settings = false := hunseen 0 (Nat.zero_le _)
  induction more generalizing before s with
  | zero => exact lookTelling_zero_of_inactive hfirst
  | succ more ih =>
    have hrest : ∀ i ≤ more,
        host.seenAfter slot id interval (host.sleep interval s).2 i = false := by
      intro i hi
      rw [← seenAfter_succ]
      exact hunseen (i + 1) (Nat.succ_le_succ hi)
    rw [lookTelling_succ_of_inactive hfirst, ih hrest (hrest 0 (Nat.zero_le _)),
      looks_succ host interval s (more + 1), afterSleeps_succ]

/-! ## The first look that sees the formatter -/

/-- The number of the first look that sees the formatter, the first look being number one; one more
than there are looks if none of them does. -/
def firstSeen (host : Host) (slot : Slot) (id : String) (policy : ActivationPolicy)
    (s : Session) : Nat :=
  (List.range policy.attempts).findIdx (host.seenAfter slot id policy.interval s) + 1

/-- How many looks a policy comes to: up to the first one that sees the formatter, and no more than
the policy says. -/
def lookCount (host : Host) (slot : Slot) (id : String) (policy : ActivationPolicy)
    (s : Session) : Nat :=
  min (host.firstSeen slot id policy s) policy.attempts

theorem lookCount_le (host : Host) (slot : Slot) (id : String) (policy : ActivationPolicy)
    (s : Session) : host.lookCount slot id policy s ≤ policy.attempts := Nat.min_le_right _ _

variable {policy : ActivationPolicy}

theorem firstSeen_le_iff :
    host.firstSeen slot id policy s ≤ policy.attempts ↔
      ∃ k < policy.attempts, host.seenAfter slot id policy.interval s k = true := by
  have hfound : (List.range policy.attempts).findIdx (host.seenAfter slot id policy.interval s) <
      (List.range policy.attempts).length ↔
        ∃ k ∈ List.range policy.attempts, host.seenAfter slot id policy.interval s k = true :=
    List.findIdx_lt_length
  rw [List.length_range] at hfound
  rw [firstSeen, Nat.succ_le_iff, hfound]
  simp only [List.mem_range]

theorem seenAfter_of_firstSeen {k : Nat} (h : host.firstSeen slot id policy s = k + 1)
    (hk : k < policy.attempts) :
    host.seenAfter slot id policy.interval s k = true ∧
      ∀ i < k, host.seenAfter slot id policy.interval s i = false := by
  have hidx : (List.range policy.attempts).findIdx
      (host.seenAfter slot id policy.interval s) = k := Nat.succ.inj h
  have hlength : (List.range policy.attempts).findIdx
      (host.seenAfter slot id policy.interval s) < (List.range policy.attempts).length := by
    rw [hidx, List.length_range]
    exact hk
  constructor
  · have hget := List.findIdx_getElem (w := hlength)
    rw [List.getElem_range, hidx] at hget
    exact hget
  · intro i hi
    have hnot := List.not_of_lt_findIdx (hidx.symm ▸ hi)
    rw [List.getElem_range] at hnot
    exact hnot

theorem firstSeen_eq {k : Nat} (hk : k < policy.attempts)
    (hseen : host.seenAfter slot id policy.interval s k = true)
    (hbefore : ∀ i < k, host.seenAfter slot id policy.interval s i = false) :
    host.firstSeen slot id policy s = k + 1 := by
  have hle := firstSeen_le_iff.2 ⟨k, hk, hseen⟩
  obtain ⟨j, hj⟩ : ∃ j, host.firstSeen slot id policy s = j + 1 := ⟨_, rfl⟩
  obtain ⟨hfirst, hnone⟩ := seenAfter_of_firstSeen hj (by omega)
  rcases Nat.lt_trichotomy j k with hlt | rfl | hlt
  · exact absurd ((hbefore j hlt).symm.trans hfirst) Bool.false_ne_true
  · exact hj
  · exact absurd ((hnone k hlt).symm.trans hseen) Bool.false_ne_true

/-- **What polling comes to**, by the number of the first look that sees the formatter: whether it
sees it, the sessions in which it looks, and the session that it leaves. -/
theorem pollTelling_eq (host : Host) (slot : Slot) (id : String) (policy : ActivationPolicy)
    (s : Session) :
    let first := host.firstSeen slot id policy s
    let count := host.lookCount slot id policy s
    let last := host.afterSleeps policy.interval s (count - 1)
    host.pollTelling slot id policy s =
      if first ≤ policy.attempts then
        ((true, host.looks policy.interval s count), remarkSeen id (first - 1) last)
      else ((false, host.looks policy.interval s count), last) := by
  intro first count last
  by_cases hfirst : first ≤ policy.attempts
  · obtain ⟨k, hk⟩ : ∃ k, first = k + 1 := ⟨_, rfl⟩
    have hlt : k < policy.attempts := by omega
    obtain ⟨hseen, hbefore⟩ := seenAfter_of_firstSeen hk hlt
    have hcount : count = k + 1 := (Nat.min_eq_left hfirst).trans hk
    obtain ⟨more, hmore⟩ : ∃ more, policy.attempts = more + 1 := ⟨policy.attempts - 1, by omega⟩
    have hended : host.lookTelling slot id policy.interval 0 more s =
        ((true, host.looks policy.interval s (k + 1)),
          remarkSeen id (0 + k) (host.afterSleeps policy.interval s k)) :=
      lookTelling_of_seen (by omega) hseen hbefore
    rw [if_pos hfirst, pollTelling, hmore]
    simp only [last, hcount, hk, Nat.add_sub_cancel]
    rw [hended, Nat.zero_add]
  · have hunseen : ∀ k < policy.attempts,
        host.seenAfter slot id policy.interval s k = false := by
      intro k hk
      cases hseen : host.seenAfter slot id policy.interval s k with
      | false => rfl
      | true => exact absurd (firstSeen_le_iff.2 ⟨k, hk, hseen⟩) hfirst
    have hcount : count = policy.attempts := Nat.min_eq_right (Nat.le_of_not_le hfirst)
    rw [if_neg hfirst, pollTelling]
    simp only [last, hcount]
    cases hattempts : policy.attempts with
    | zero => rfl
    | succ more =>
      have hended : host.lookTelling slot id policy.interval 0 more s =
          ((false, host.looks policy.interval s (more + 1)),
            host.afterSleeps policy.interval s more) :=
        lookTelling_of_unseen fun i hi => hunseen i (by omega)
      exact hended

end FormatChain.Host
