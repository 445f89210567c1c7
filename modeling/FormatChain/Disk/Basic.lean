import FormatChain.Path

/-!
# Files

A disk holds texts under paths.  Paths with the same components are one file, which keeps the path
that it was first stored under.  A mark against writing or reading belongs to a path, whether a file
is stored there or not.

* `Disk` : the files, and the marks.
* `Disk.text?`, `Disk.put`, `Disk.remove` : one file.
* `Disk.isReadOnly`, `Disk.markReadOnly` : the mark against writing.
-/

namespace FormatChain

/-- Texts under paths. -/
structure Disk where
  /-- The files, in the order in which they were first stored. -/
  files : List (Path × String) := []
  /-- The directories that are there without a file in them. -/
  directories : List Path := []
  /-- The paths that must not be written. -/
  readOnly : List Path := []
  /-- The paths that cannot be read. -/
  unreadable : List Path := []
  /-- The bytes of the files that cannot be read because they are no text. -/
  bytes : List (Path × List UInt8) := []
  /-- The links, and where they lead. -/
  links : List (Path × Path) := []
  /-- The paths of files that may be run. -/
  executable : List Path := []
  deriving Inhabited

namespace Disk

/-- The text under a path among files. -/
def lookup (p : Path) : List (Path × String) → Option String
  | [] => none
  | file :: rest => if file.1.same p then some file.2 else lookup p rest

/-- Stores a text under a path, in the place of the file that is there. -/
def store (p : Path) (text : String) : List (Path × String) → List (Path × String)
  | [] => [(p, text)]
  | file :: rest => if file.1.same p then (file.1, text) :: rest else file :: store p text rest

/-- The text of the file under a path. -/
def text? (d : Disk) (p : Path) : Option String := lookup p d.files

/-- Whether a file is stored under the path. -/
def hasFile (d : Disk) (p : Path) : Bool := (d.text? p).isSome

/-- Stores a text under a path. -/
def put (d : Disk) (p : Path) (text : String) : Disk := { d with files := store p text d.files }

/-- Removes the file under a path. -/
def remove (d : Disk) (p : Path) : Disk :=
  { d with files := d.files.filter fun file => !file.1.same p }

/-- The disk with these files, one stored after the other. -/
def ofFiles (files : List (Path × String)) : Disk :=
  files.foldl (fun d file => d.put file.1 file.2) {}

/-- Whether a path is marked against writing. -/
def isReadOnly (d : Disk) (p : Path) : Bool := d.readOnly.any (·.same p)

/-- Whether a path is marked against reading. -/
def isUnreadable (d : Disk) (p : Path) : Bool := d.unreadable.any (·.same p)

/-- Sets or removes the mark against writing. -/
def markReadOnly (d : Disk) (p : Path) (flag : Bool) : Disk :=
  let others := d.readOnly.filter fun other => !other.same p
  { d with readOnly := if flag then p :: others else others }

/-- Sets or removes the mark against reading. -/
def markUnreadable (d : Disk) (p : Path) (flag : Bool) : Disk :=
  let others := d.unreadable.filter fun other => !other.same p
  { d with unreadable := if flag then p :: others else others }

theorem lookup_store (p q : Path) (text : String) (files : List (Path × String)) :
    lookup q (store p text files) = if p.same q then some text else lookup q files := by
  induction files with
  | nil => simp [store, lookup]
  | cons file rest ih =>
    by_cases hp : file.1.same p
    · by_cases hq : p.same q
      · have : file.1.same q := by
          simp only [Path.same, beq_iff_eq] at hp hq ⊢
          exact hp.trans hq
        simp [store, lookup, hp, hq, this]
      · have : ¬ file.1.same q := fun h => hq (by
          simp only [Path.same, beq_iff_eq] at hp h ⊢
          exact hp.symm.trans h)
        simp [store, lookup, hp, hq, this]
    · by_cases hf : file.1.same q
      · have : ¬ p.same q := fun h => hp (by
          simp only [Path.same, beq_iff_eq] at hf h ⊢
          exact hf.trans h.symm)
        simp [store, lookup, hp, hf, this]
      · simp [store, lookup, hp, hf, ih]

/-- After storing a text it is under the path, and no other path has changed. -/
theorem text?_put (d : Disk) (p q : Path) (text : String) :
    (d.put p text).text? q = if p.same q then some text else d.text? q :=
  lookup_store p q text d.files

end Disk

end FormatChain
