/-!
# The guard against overlapping runs

A guard is held exactly while somebody has a permit of it.  Asking for a permit never waits: while
the guard is held there is none.  Guards are reached through handles; a clone of a handle is another
handle of the same guard.

* `Guard`, `Guard.tryAcquire?`, `Guard.release` : one guard.
* `Guardroom` : several guards, and the permits given out so far.
* `Guardroom.acquire`, `Guardroom.release` : asking for a permit, and giving one back.
* `Guardhouse`, `Guardhouse.make` : guards behind their handles, and what can be done with them.
-/

namespace FormatChain

/-- A flag that one at a time may hold. -/
structure Guard where
  /-- Whether somebody holds it. -/
  held : Bool := false
  deriving Repr, DecidableEq, Inhabited

namespace Guard

/-- The guard after a permit was given out, unless it is held. -/
def tryAcquire? (g : Guard) : Option Guard :=
  if g.held then none else some ⟨true⟩

/-- The guard after its permit was given back. -/
def release (_ : Guard) : Guard := ⟨false⟩

end Guard

/-- Guards by number, and what everyone who asked got: the number of the guard, while the permit is
not given back. -/
structure Guardroom where
  /-- The guards. -/
  guards : List Guard
  /-- The permits, in the order in which they were asked for. -/
  permits : List (Option Nat) := []
  deriving Repr, DecidableEq

namespace Guardroom

/-- The guard of a number; one that nobody holds if there is none. -/
def guard (room : Guardroom) (n : Nat) : Guard :=
  room.guards.getD n {}

/-- Asks for a permit of a guard: whether there is one, and the room after it. -/
def acquire (room : Guardroom) (n : Nat) : Bool × Guardroom :=
  match (room.guard n).tryAcquire? with
  | some g => (true, ⟨room.guards.set n g, room.permits ++ [some n]⟩)
  | none => (false, { room with permits := room.permits ++ [none] })

/-- Gives the permit at an index back: whether there is one, and the room after it. -/
def release (room : Guardroom) (index : Nat) : Bool × Guardroom :=
  match room.permits[index]? with
  | some (some n) =>
    (true, ⟨room.guards.set n (room.guard n).release, room.permits.set index none⟩)
  | _ => (false, room)

end Guardroom

/-- Guards and their permits, with the handles through which the guards are reached. -/
structure Guardhouse extends Guardroom where
  /-- The number of the guard that each handle is one of. -/
  handles : List Nat
  deriving Repr, DecidableEq

namespace Guardhouse

/-- There are no guards yet. -/
def empty : Guardhouse := ⟨⟨[], []⟩, []⟩

/-- Whether the guard that a handle is one of is held. -/
def isHeld (house : Guardhouse) (handle : Nat) : Bool :=
  house.handles[handle]?.any fun n => (house.guard n).held

/-- What can be done with guards. -/
inductive Call where
  /-- To make a guard, with a handle of its own. -/
  | create
  /-- To make another handle of the guard that a handle is one of. -/
  | clone (handle : Nat)
  /-- To ask for a permit through a handle. -/
  | acquire (handle : Nat)
  /-- To give the permit back that was given out at an index. -/
  | release (index : Nat)
  deriving Repr, DecidableEq

/-- Makes a call: whether it came to something, and the house after it. -/
def make (house : Guardhouse) : Call → Bool × Guardhouse
  | .create =>
    (true, ⟨⟨house.guards ++ [{}], house.permits⟩, house.handles ++ [house.guards.length]⟩)
  | .clone handle =>
    match house.handles[handle]? with
    | some n => (true, { house with handles := house.handles ++ [n] })
    | none => (false, house)
  | .acquire handle =>
    match house.handles[handle]? with
    | some n =>
      let (given, room) := house.toGuardroom.acquire n
      (given, { house with toGuardroom := room })
    | none => (false, house)
  | .release index =>
    let (given, room) := house.toGuardroom.release index
    (given, { house with toGuardroom := room })

/-- The house after calls, one after another. -/
def after (house : Guardhouse) (calls : List Call) : Guardhouse :=
  calls.foldl (fun house call => (house.make call).2) house

end Guardhouse

end FormatChain
