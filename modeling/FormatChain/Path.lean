/-!
# Paths

A path is a text; what it names is decided by its components.  Slashes part the components, empty
ones and those of a single dot count for nothing, except for a dot that starts a relative path, and
two dots stand for themselves.  Two paths are equal if their components are; a path is shown as it
was written.

* `Path`, `Path.components`, `Path.same` : paths and their equality.
* `Path.join` : a path taken from a directory.
* `Path.parent?`, `Path.ancestors` : the directories around a path.
* `Path.isWithin` : whether a path starts with all components of another.
* `Path.extension?` : what follows the last dot of a file's name.
-/

namespace FormatChain

/-- A path, as it is written. -/
structure Path where
  /-- The text of the path. -/
  text : String
  deriving Repr, DecidableEq, Inhabited

/-- One component of a path. -/
inductive PathComponent where
  /-- The slash that starts an absolute path. -/
  | root
  /-- The dot that starts a relative path. -/
  | here
  /-- Two dots. -/
  | up
  /-- A name. -/
  | name (text : List Char)
  deriving Repr, DecidableEq

namespace Path

/-- The texts between the slashes, at least one. -/
def splitAtSlashes : List Char → List (List Char)
  | [] => [[]]
  | c :: rest =>
    if c = '/' then [] :: splitAtSlashes rest
    else
      match splitAtSlashes rest with
      | part :: parts => (c :: part) :: parts
      | [] => [[c]]

/-- The component that a text between slashes stands for after the start of a path. -/
def componentOf? (part : List Char) : Option PathComponent :=
  if part = [] ∨ part = ['.'] then none
  else if part = ['.', '.'] then some .up
  else some (.name part)

/-- Whether the path starts with a slash. -/
def isAbsolute (p : Path) : Bool :=
  p.text.toList.head? == some '/'

/-- The components of a path given as characters. -/
def componentsOf (chars : List Char) : List PathComponent :=
  let parts := splitAtSlashes chars
  let start :=
    if chars.head? = some '/' then [.root]
    else if parts.head? = some ['.'] then [.here]
    else []
  start ++ parts.filterMap componentOf?

/-- The components of a path. -/
def components (p : Path) : List PathComponent :=
  componentsOf p.text.toList

/-- Whether two paths have the same components. -/
def same (p q : Path) : Bool :=
  p.components == q.components

/-- Whether the path starts with all components of the other. -/
def isWithin (p outer : Path) : Bool :=
  outer.components.isPrefixOf p.components

/-- The path taken from a directory; an absolute path stands for itself. -/
def join (dir p : Path) : Path :=
  if p.isAbsolute then p
  else if dir.text.isEmpty || dir.text.toList.getLast? == some '/' then ⟨dir.text ++ p.text⟩
  else ⟨dir.text ++ "/" ++ p.text⟩

/-- The characters, last first, from the last component on: slashes and single dots after it are
dropped. A dot that starts the path is a component and stays. -/
def dropTrailing : List Char → List Char
  | '/' :: rest => if rest.isEmpty then ['/'] else dropTrailing rest
  | ['.'] => ['.']
  | '.' :: '/' :: rest => if rest.isEmpty then ['/'] else dropTrailing rest
  | chars => chars

/-- The directory that holds the path: the path without its last component. The root and the empty
path have none. -/
def parent? (p : Path) : Option Path :=
  match p.components.getLast? with
  | none => none
  | some .root => none
  | some _ =>
    let withoutName := (dropTrailing p.text.toList.reverse).dropWhile (· != '/')
    some ⟨String.ofList (dropTrailing withoutName).reverse⟩

/-- The path and the directories around it, innermost first, in at most so many steps. -/
def ancestorsUpTo : Nat → Path → List Path
  | 0, p => [p]
  | steps + 1, p =>
    match p.parent? with
    | some dir => p :: ancestorsUpTo steps dir
    | none => [p]

/-- The path and the directories around it, innermost first. -/
def ancestors (p : Path) : List Path :=
  ancestorsUpTo p.components.length p

/-- The name of the file, if the path ends in a name. -/
def fileName? (p : Path) : Option (List Char) :=
  match p.components.getLast? with
  | some (.name text) => some text
  | _ => none

/-- What follows the last dot of the file's name. A dot that starts the name does not count. -/
def extension? (p : Path) : Option String := do
  let name ← p.fileName?
  let reversed := name.reverse
  let after := reversed.takeWhile (· != '.')
  let before := reversed.dropWhile (· != '.')
  if before.length ≤ 1 then none else some (String.ofList after.reverse)

end Path

end FormatChain
