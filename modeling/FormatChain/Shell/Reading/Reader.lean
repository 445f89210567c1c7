import FormatChain.Shell.Syntax

/-!
# What is left of a script

A script is read from its start on, one complete command at a time.  The texts that commands find in
the script itself stand in the lines after them, and are read at the end of a line.

* `Reader`, `Reading` : what is left of a script, and reading a part of it.
* `peek`, `advance`, `takes`, `takeAll` : bytes.
* `Within`, `Grammar`, `Gathered` : what words stand in, the parts of scripts that need each other, and
  the parts of a word so far.
-/

namespace FormatChain.Shell

open FormatChain.Process

/-! ## Bytes of a script -/

/-- A text in the script that is still to be read. -/
structure Awaited where
  /-- The number by which it is known. -/
  number : Nat
  /-- The line that ends it. -/
  marker : Bytes
  /-- Whether its bytes stand for themselves. -/
  quoted : Bool
  /-- Whether tabs at the start of lines are left out. -/
  indented : Bool

/-- A short name of a text that is being read in its place. -/
structure Unfolding where
  /-- The short name. -/
  name : Bytes
  /-- How many bytes follow the text. -/
  left : Nat
  /-- Whether the text ends with a blank. -/
  blank : Bool

/-- What is left of a script. -/
structure Reader where
  /-- The language. -/
  dialect : Dialect := .common
  /-- The bytes that are left. -/
  rest : Bytes
  /-- The number of the line. -/
  line : Nat := 1
  /-- Whether the last token is to be read once more. -/
  again : Bool := false
  /-- The last token. -/
  last : Token := .ending
  /-- The texts in the script that are still to be read. -/
  awaited : List Awaited := []
  /-- The texts in the script, by their numbers. -/
  documents : List (Nat × Word) := []
  /-- How many texts in the script there were. -/
  count : Nat := 0
  /-- Whether groups of patterns may stand in words. -/
  extended : Bool := false
  /-- The short names of texts. -/
  aliases : List (Bytes × Bytes) := []
  /-- The short names whose texts are being read, the latest first. -/
  unfolding : List Unfolding := []
  /-- Whether the text of a short name ended before the next word that had a blank at its end. -/
  blankBefore : Bool := false
  deriving Inhabited

/-- Reading a part of a script, or finding a fault in a line. -/
abbrev Reading := StateT Reader (Except (Nat × Fault))

/-- Gives up. -/
def refuse {α : Type} (fault : Fault) : Reading α := do
  throw ((← get).line, fault)

/-- Gives up on something that starts in a line. The common language tells of the line where the script
ends. -/
def refuseFrom {α : Type} (start : Nat) (fault : Fault) : Reading α := do
  let r ← get
  throw (if r.dialect = .rich then start else r.line, fault)

/-- Leaves out ends of lines after a backslash. -/
def skipJoins : Bytes → Nat → Bytes × Nat
  | '\\' :: '\n' :: rest, line => skipJoins rest (line + 1)
  | bytes, line => (bytes, line)

/-- The next byte, which is not taken. Ends of lines after a backslash are left out. -/
def peek : Reading (Option Char) := do
  let r ← get
  match r.rest with
  | '\\' :: '\n' :: _ =>
    let (rest, line) := skipJoins r.rest r.line
    set { r with rest, line }
    return rest.head?
  | rest => return rest.head?

/-- Takes a byte. -/
def advance : Reading Unit :=
  modify fun r =>
    match r.rest with
    | [] => r
    | '\n' :: rest => { r with rest, line := r.line + 1 }
    | _ :: rest => { r with rest }

/-- Takes a byte if it is the next one, and tells whether it was. -/
def takes (c : Char) : Reading Bool := do
  if (← peek) = some c then
    advance
    return true
  else return false

/-- Takes bytes of a kind, in at most so many steps. -/
def takeKind (isOfKind : Char → Bool) : Nat → Bytes → Reading Bytes
  | 0, done => return done.reverse
  | steps + 1, done => do
    match ← peek with
    | some c =>
      if isOfKind c then
        advance
        takeKind isOfKind steps (c :: done)
      else return done.reverse
    | none => return done.reverse

/-- How many bytes what is left may grow to when texts take the place of their short names. -/
def Reader.bound (r : Reader) : Nat :=
  let longest := r.aliases.foldl (fun n entry => n + entry.2.length) 0
  (r.rest.length + 2) * (longest + 1)

/-- How many steps are enough for what is left. -/
def stepsLeft : Reading Nat := return (← get).bound

/-- Takes bytes of a kind. -/
def takeAll (isOfKind : Char → Bool) : Reading Bytes := do takeKind isOfKind (← stepsLeft) []

/-! ## Words -/

/-- What a part stands in. -/
inductive Within where
  /-- A word of a command. -/
  | word
  /-- A pattern of a condition, which only blanks end that stand in no parentheses. -/
  | pattern (opened : Nat)
  /-- The parentheses of a group of patterns in a word. -/
  | group (opened : Nat)
  /-- Double quotes. -/
  | quotes
  /-- Braces, which may stand in double quotes. -/
  | braces (quoted : Bool)
  /-- A text in the script. -/
  | document
  /-- A sum, in which parentheses are open. -/
  | sum (opened : Nat)
  /-- The brackets of an element. -/
  | brackets
  /-- Braces, up to a byte that parts what stands in them. -/
  | bracesUpTo (mark : Char) (quoted : Bool)
  deriving DecidableEq

/-- Whether words in it are as in double quotes. -/
def Within.isQuoted : Within → Bool
  | .quotes => true
  | .braces quoted => quoted
  | .document => true
  | .sum _ => true
  | .bracesUpTo _ quoted => quoted
  | _ => false

/-- Whether a byte ends words. -/
def endsWord (c : Char) : Bool := [' ', '\t', '\n', ';', '&', '|', '<', '>', '(', ')'].contains c

/-- How a list of commands ends. -/
inductive ListKind where
  /-- With the end of a line. -/
  | line
  /-- With something that cannot start a command. It has at least one. -/
  | inside
  /-- With something that cannot start a command. -/
  | optional
  deriving DecidableEq

/-- Whether a byte before a parenthesis starts a group of patterns. -/
def startsGroup (c : Char) : Bool := ['?', '*', '+', '@', '!'].contains c

/-- The parts of scripts that need each other. -/
structure Grammar where
  /-- A list of commands. -/
  list : ListKind → Reading Command
  /-- A list of commands up to the parenthesis that closes it. -/
  closed : Unit → Reading Command
  /-- A single command; whether ends of lines may stand before it. -/
  command : Bool → Reading Command
  /-- The parts of a word. -/
  parts : Within → Reading Word

/-- The parts of a word so far. -/
structure Gathered where
  /-- The parts, the latest first. -/
  parts : List Part := []
  /-- The bytes of the part that was begun, the latest first. -/
  current : Bytes := []

namespace Gathered

/-- Adds a byte. -/
def add (g : Gathered) (c : Char) : Gathered := { g with current := c :: g.current }

/-- Ends the part that was begun. -/
def flush (g : Gathered) : Gathered :=
  if g.current.isEmpty then g else ⟨.text g.current.reverse :: g.parts, []⟩

/-- Adds a part. -/
def push (g : Gathered) (part : Part) : Gathered :=
  let g := g.flush
  { g with parts := part :: g.parts }

/-- The word. -/
def word (g : Gathered) : Word := g.flush.parts.reverse

end Gathered

end FormatChain.Shell
