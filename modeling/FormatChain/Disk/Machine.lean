import FormatChain.Disk.Basic
import FormatChain.SystemError
import FormatChain.Text.Utf8

/-!
# A disk as the operating system shows it

The operating system takes a path from the working directory and goes from name to name.  Every name
but the last must be that of a directory, or of a link that leads to one; two dots lead to the
directory around.  Directories are those listed and those around files.  The system says why it
refuses to open a path.  Marks against writing are shown but do not stop the one who may do
everything.

* `Place`, `Disk.find` : what a path leads to.
* `Disk.pathExists`, `Disk.showsReadOnly` : what is there.
* `Disk.openText`, `Disk.overwrite` : reading and writing a file as a text.
* `Disk.openBytes`, `Disk.overwriteBytes` : reading and writing a file as bytes.
* `Disk.unlink`, `Disk.makeDirectory` : taking away and adding.
* `Disk.names`, `Disk.textsInside` : what is in a directory.
-/

namespace FormatChain

open FormatChain.Text

/-- What a path leads to, and under which path without dots and links. -/
inductive Place where
  /-- A directory. -/
  | directory (path : Path)
  /-- A file. -/
  | file (path : Path)
  /-- Nothing, in a directory that is there. -/
  | vacant (path : Path)
  deriving Repr, DecidableEq

/-- The path of a place. -/
def Place.path : Place → Path
  | .directory p => p
  | .file p => p
  | .vacant p => p

namespace Path

/-- The root of all paths. -/
def root : Path := ⟨"/"⟩

/-- How many bytes a name may have. -/
def nameLimit : Nat := 255

/-- How many bytes a path may have, the one that ends it counted. -/
def textLimit : Nat := 4096

/-- Whether the path asks for a directory by its ending. -/
def asksForDirectory (p : Path) : Bool :=
  match p.text.toList.reverse with
  | '/' :: _ => true
  | '.' :: '/' :: _ => true
  | ['.'] => true
  | '.' :: '.' :: '/' :: _ => true
  | ['.', '.'] => true
  | _ => false

/-- Why the system takes no such path, if it takes none. -/
def fault? (p : Path) : Option SystemError :=
  if p.text.isEmpty then some .notFound
  else if p.text.toList.contains '\x00' then some .nulInPath
  else if textLimit ≤ p.text.utf8ByteSize then some .nameTooLong
  else none

end Path

namespace Disk

/-- Whether a path without dots and links is that of a directory: it is listed, or something is
inside. -/
def isDirectory (d : Disk) (p : Path) : Bool :=
  p.same Path.root
    || d.directories.any (fun dir => dir.isWithin p)
    || d.files.any (fun file => file.1.isWithin p && !file.1.same p)
    || d.links.any (fun link => link.1.isWithin p && !link.1.same p)

/-- Where a link leads. -/
def link? (d : Disk) (p : Path) : Option Path :=
  (d.links.find? fun link => link.1.same p).map (·.2)

/-- Goes along components from a directory, in at most so many steps; links at the end are followed
if that is wanted. -/
def follow (d : Disk) (toTheEnd : Bool) : Nat → Path → List PathComponent →
    Except SystemError Place
  | 0, _, _ => .error .tooManyLinks
  | _, dir, [] => .ok (.directory dir)
  | steps + 1, dir, component :: rest =>
    match component with
    | .root => follow d toTheEnd steps Path.root rest
    | .here => follow d toTheEnd steps dir rest
    | .up => follow d toTheEnd steps (dir.parent?.getD dir) rest
    | .name chars =>
      let name := String.ofList chars
      let place := dir.join ⟨name⟩
      if Path.nameLimit < name.utf8ByteSize then .error .nameTooLong
      else
        match d.link? place with
        | some target =>
          if rest.isEmpty && !toTheEnd then .ok (.file place)
          else follow d toTheEnd steps dir (target.components ++ rest)
        | none =>
          if d.isDirectory place then follow d toTheEnd steps place rest
          else if d.hasFile place then
            if rest.isEmpty then .ok (.file place) else .error .notADirectory
          else if rest.isEmpty then .ok (.vacant place)
          else .error .notFound

/-- How many links the system follows. -/
def linkLimit : Nat := 40

/-- What a path taken from a directory leads to, or why the system does not get there. A link at the
end is followed if that is wanted. -/
def search (d : Disk) (toTheEnd : Bool) (cwd p : Path) : Except SystemError Place :=
  match p.fault? with
  | some e => .error e
  | none =>
    let whole := cwd.join p
    let steps := (linkLimit + 1) * (whole.components.length + 1)
    match d.follow (toTheEnd || p.asksForDirectory) steps Path.root whole.components with
    | .ok (.file place) => if p.asksForDirectory then .error .notADirectory else .ok (.file place)
    | result => result

/-- What a path taken from a directory leads to, or why the system does not get there. -/
def find (d : Disk) (cwd p : Path) : Except SystemError Place := d.search true cwd p

/-- The path without dots and links of a file, or why there is none. -/
def locate (d : Disk) (cwd p : Path) : Except SystemError Path := do
  match ← d.find cwd p with
  | .file place => return place
  | .directory _ => throw .isADirectory
  | .vacant _ => throw .notFound

/-- The path without dots and links of a directory, or why there is none. -/
def locateDirectory (d : Disk) (cwd p : Path) : Except SystemError Path := do
  match ← d.find cwd p with
  | .directory place => return place
  | .file _ => throw .notADirectory
  | .vacant _ => throw .notFound

/-- Whether something is under a path. -/
def pathExists (d : Disk) (cwd p : Path) : Bool :=
  match d.find cwd p with
  | .ok (.vacant _) => false
  | .ok _ => true
  | .error _ => false

/-- Whether what is under a path is marked against writing. -/
def showsReadOnly (d : Disk) (cwd p : Path) : Bool :=
  match d.find cwd p with
  | .ok (.vacant _) => false
  | .ok place => d.isReadOnly place.path
  | .error _ => false

/-! ## Reading and writing -/

/-- The devices that take whatever is written. -/
def devices : List Path := ["/dev/null", "/dev/zero", "/dev/full"].map Path.mk

/-- The text of the file under a path, or why it cannot be read. -/
def openText (d : Disk) (cwd p : Path) : Except SystemError String := do
  let place ← d.locate cwd p
  if d.isUnreadable place then throw .notText
  match d.text? place with
  | some text => return text
  | none => throw .notFound

/-- The bytes of the file under a path, or why it cannot be read. -/
def openBytes (d : Disk) (cwd p : Path) : Except SystemError (List UInt8) := do
  let place ← d.locate cwd p
  match (d.bytes.find? fun entry => entry.1.same place) with
  | some (_, bytes) => return bytes
  | none => return encodeUtf8 ((d.text? place).getD "")

/-- The path of the file to be written under a path, or why there cannot be one. A new file needs a
directory that is there. -/
def locateTarget (d : Disk) (cwd p : Path) : Except SystemError Path := do
  match ← d.find cwd p with
  | .file place => return place
  | .directory _ => throw .isADirectory
  | .vacant place => if p.asksForDirectory then throw .isADirectory else return place

/-- The disk with other bytes in the file of a path without dots and links. -/
def putBytes (d : Disk) (place : Path) (bytes : List UInt8) : Disk :=
  if devices.contains place then d
  else
    let others := d.bytes.filter fun entry => !entry.1.same place
    match decodeUtf8 bytes with
    | .ok text => { (d.put place text).markUnreadable place false with bytes := others }
    | .error _ =>
      { (d.put place (decodeLossy bytes)).markUnreadable place true with
        bytes := (place, bytes) :: others }

/-- The disk after bytes were written to the file under a path, or why they cannot be. -/
def overwriteBytes (d : Disk) (cwd p : Path) (bytes : List UInt8) : Except SystemError Disk := do
  let place ← d.locateTarget cwd p
  if place.same ⟨"/dev/full"⟩ && !bytes.isEmpty then throw .noSpace
  return d.putBytes place bytes

/-- The disk after a text was written to the file under a path, or why it cannot be. -/
def overwrite (d : Disk) (cwd p : Path) (text : String) : Except SystemError Disk :=
  d.overwriteBytes cwd p (encodeUtf8 text)

/-! ## Taking away and adding -/

/-- The disk without the file of a path without dots. The directory around it stays. -/
def unlink (d : Disk) (place : Path) : Disk :=
  let around := (place.parent?.filter fun dir => !dir.text.isEmpty).toList
  { (d.remove place).markUnreadable place false with
    directories := around ++ d.directories
    readOnly := d.readOnly.filter fun other => !other.same place
    bytes := d.bytes.filter fun entry => !entry.1.same place
    links := d.links.filter fun link => !link.1.same place
    executable := d.executable.filter fun other => !other.same place }

/-- The disk without a directory and all that is in it. The directory around it stays. -/
def unlinkAll (d : Disk) (place : Path) : Disk :=
  let outside (p : Path) := !p.isWithin place
  let around := (place.parent?.filter fun dir => !dir.text.isEmpty).toList
  { files := d.files.filter fun file => outside file.1
    directories := around ++ d.directories.filter outside
    readOnly := d.readOnly.filter outside
    unreadable := d.unreadable.filter outside
    bytes := d.bytes.filter fun entry => outside entry.1
    links := d.links.filter fun link => outside link.1
    executable := d.executable.filter outside }

/-- The disk with a directory under a path without dots. -/
def makeDirectory (d : Disk) (place : Path) : Disk :=
  { d with directories := place :: d.directories }

/-- The names in a directory, in the order of their characters, each once. -/
def names (d : Disk) (dir : Path) : List String :=
  let all := d.directories ++ d.files.map (·.1) ++ d.links.map (·.1)
  let depth := dir.components.length
  let inside := all.filterMap fun p =>
    if p.isWithin dir then
      match p.components.drop depth with
      | .name chars :: _ => some (String.ofList chars)
      | _ => none
    else none
  (inside.foldl (fun known name => if known.contains name then known else name :: known) []).mergeSort
    fun a b => decide (a < b) || a == b

/-- The texts of the files in a directory by their paths from there, each link being the file that it
leads to. -/
def textsInside (d : Disk) (dir : Path) : List (String × String) :=
  (d.files.map (·.1) ++ d.links.map (·.1)).filterMap fun p =>
    if p.isWithin dir then
      (d.openBytes Path.root p).toOption.map fun bytes =>
        (String.ofList (p.text.toList.drop (dir.text.length + 1)), decodeLossy bytes)
    else none

end Disk

end FormatChain
