import FormatChain.Process.World

/-!
# Conditions

A condition is given as arguments: texts and numbers are compared, files are looked at, and conditions
are put together.  Whether an argument is an operator or an operand hangs on what follows it.

* `Condition.Fault` : what is wrong with a condition.
* `Condition.holds` : whether a condition holds.
-/

namespace FormatChain.Tools

open FormatChain.Process

namespace Condition

/-- What is wrong with a condition. -/
inductive Fault where
  /-- An operator stands where none may stand. -/
  | unexpectedOperator (op : Bytes)
  /-- Nothing follows an operator. -/
  | argumentExpected (op : Bytes)
  /-- A parenthesis is not closed. -/
  | closingExpected
  /-- A number is none. -/
  | illegalNumber (text : Bytes)
  deriving Repr, DecidableEq

/-- What an argument may be. -/
inductive Role where
  /-- An operator before one operand. -/
  | unary
  /-- An operator between two operands. -/
  | binary
  /-- A word that puts conditions together. -/
  | connective
  deriving Repr, DecidableEq

/-- The operators before one operand. -/
def unaryOperators : List String :=
  ["-r", "-w", "-x", "-e", "-f", "-d", "-c", "-b", "-p", "-u", "-g", "-k", "-s", "-t", "-z", "-n", "-h",
    "-L", "-O", "-G", "-S"]

/-- The operators between two operands. -/
def binaryOperators : List String :=
  ["=", "!=", "<", ">", "-eq", "-ne", "-ge", "-gt", "-le", "-lt", "-nt", "-ot", "-ef"]

/-- Where conditions are looked at. -/
structure Site where
  /-- The disk. -/
  disk : Disk
  /-- The directory. -/
  cwd : Path
  /-- Whether two equals signs are one operator. -/
  doubleEquals : Bool := false
  /-- Whether only files that are there are newer or older than others. -/
  bothThere : Bool := false
  /-- The other operators before one operand that are known there, and whether they hold. -/
  others : List (String × (Bytes → Bool)) := []

/-- The role of an argument, if it has one. -/
def Site.role? (s : Site) (arg : Bytes) : Option Role :=
  let text := String.ofList arg
  if ["!", "-a", "-o", "(", ")"].contains text then some .connective
  else if unaryOperators.contains text || s.others.any (·.1 = text) then some .unary
  else if binaryOperators.contains text || (s.doubleEquals && text = "==") then some .binary
  else none

/-- The role of the argument at the start: an operator before one operand is an operand if nothing
follows it, or if it stands before an operator between two. -/
def Site.roleAt (s : Site) : List Bytes → Option Role
  | [] => none
  | arg :: rest =>
    match s.role? arg with
    | some .unary =>
      let operand : Bool := match rest with
        | [] => true
        | [_] => false
        | next :: _ => decide (s.role? next = some .binary)
      if operand then none else some .unary
    | some .connective => if arg = ['('] && rest.isEmpty then none else some .connective
    | other => other

/-- A whole number. -/
def numberOf (text : Bytes) : Except Fault Int :=
  let trimmed := ((text.dropWhile isSpaceByte).reverse.dropWhile isSpaceByte).reverse
  match intOf? trimmed with
  | some n => .ok n
  | none => .error (.illegalNumber text)

/-- What can be said of a file. -/
def Site.file (s : Site) (op : String) (name : Bytes) : Bool :=
  if ["/dev/stdin", "/dev/stdout", "/dev/stderr", "/dev/fd/0", "/dev/fd/1"].contains (textOf name) then
    ["-e", "-r", "-w", "-p"].contains op
  else
  let found := s.disk.find s.cwd (pathOf name)
  match op with
  | "-h" | "-L" =>
    match s.disk.search false s.cwd (pathOf name) with
    | .ok (.file place) => (s.disk.link? place).isSome
    | _ => false
  | _ =>
    match found with
    | .ok (.directory _) => ["-e", "-d", "-r", "-w", "-x", "-O", "-G", "-s"].contains op
    | .ok (.file place) =>
      let device := Path.isWithin place ⟨"/dev"⟩
      match op with
      | "-e" | "-r" | "-w" | "-O" | "-G" => true
      | "-f" => !device
      | "-c" => device
      | "-s" => !device && ((s.disk.text? place).getD "") != ""
      | "-x" => s.disk.executable.any (·.same place)
      | _ => false
    | _ => false

/-- Whether an operator before an operand holds. -/
def Site.unary (s : Site) (op operand : Bytes) : Except Fault Bool :=
  match s.others.find? fun entry => entry.1.toList = op with
  | some (_, holds) => .ok (holds operand)
  | none =>
  match String.ofList op with
  | "-z" => .ok operand.isEmpty
  | "-n" => .ok (!operand.isEmpty)
  | "-t" => (numberOf operand).map fun _ => false
  | name => .ok (s.file name operand)

/-- Whether an operator between operands holds. -/
def Site.binary (s : Site) (a op b : Bytes) : Except Fault Bool :=
  let numbers (test : Int → Int → Bool) : Except Fault Bool := do
    return test (← numberOf a) (← numberOf b)
  match String.ofList op with
  | "=" | "==" => .ok (a == b)
  | "!=" => .ok (a != b)
  | "<" => .ok (a != b && bytesBefore a b)
  | ">" => .ok (a != b && bytesBefore b a)
  | "-eq" => numbers (· == ·)
  | "-ne" => numbers (· != ·)
  | "-ge" => numbers (fun x y => decide (y ≤ x))
  | "-gt" => numbers (fun x y => decide (y < x))
  | "-le" => numbers (fun x y => decide (x ≤ y))
  | "-lt" => numbers (fun x y => decide (x < y))
  | "-ef" =>
    let place (name : Bytes) := (s.disk.find s.cwd (pathOf name)).toOption.map Place.path
    .ok ((place a).isSome && place a == place b && s.file "-e" a)
  | "-nt" => .ok (!s.bothThere && s.file "-e" a && !s.file "-e" b)
  | _ => .ok (!s.bothThere && !s.file "-e" a && s.file "-e" b)

/-- Reading a condition: the arguments that are left. -/
abbrev Looking := StateT (List Bytes) (Except Fault)

/-- The parts of a condition that need each other. -/
structure Parts where
  /-- Conditions one of which must hold. -/
  anyOf : Looking Bool
  /-- A condition that may be turned round. -/
  turned : Looking Bool

/-- A single condition. -/
def Site.primary (s : Site) (parts : Parts) : Looking Bool := do
  match ← get with
  | [] => return false
  | arg :: rest =>
    match s.roleAt (arg :: rest) with
    | some .unary =>
      match rest with
      | [] => throw (.argumentExpected arg)
      | operand :: rest =>
        set rest
        liftM (s.unary arg operand)
    | found =>
      if arg = ['('] && found = some .connective then
        match rest with
        | [')'] :: after =>
          set after
          return false
        | _ =>
          set rest
          let value ← parts.anyOf
          match ← get with
          | [')'] :: after =>
            set after
            return value
          | _ => throw .closingExpected
      else
        match rest, s.roleAt rest with
        | op :: operand :: after, some .binary =>
          set after
          liftM (s.binary arg op operand)
        | [op], some .binary => throw (.argumentExpected op)
        | _, _ =>
          set rest
          return !arg.isEmpty

/-- A condition that may be turned round. -/
def Site.turned (s : Site) (parts : Parts) : Looking Bool := do
  match ← get with
  | ['!'] :: rest =>
    if rest.isEmpty then
      set rest
      return true
    else
      set rest
      return !(← parts.turned)
  | _ => s.primary parts

/-- Conditions all of which must hold, in at most so many steps. -/
def Site.allOf (s : Site) (parts : Parts) : Nat → Looking Bool
  | 0 => return false
  | steps + 1 => do
    let value ← s.turned parts
    match ← get with
    | ['-', 'a'] :: rest =>
      set rest
      let others ← allOf s parts steps
      return value && others
    | _ => return value

/-- Conditions one of which must hold, in at most so many steps. -/
def Site.anyOf (s : Site) (parts : Parts) : Nat → Looking Bool
  | 0 => return false
  | steps + 1 => do
    let value ← s.allOf parts (steps + 1)
    match ← get with
    | ['-', 'o'] :: rest =>
      set rest
      let others ← anyOf s parts steps
      return value || others
    | _ => return value

/-- The parts of a condition nested up to so deep. -/
def Site.parts (s : Site) : Nat → Parts
  | 0 => ⟨pure false, pure false⟩
  | depth + 1 =>
    ⟨do s.anyOf (s.parts depth) (depth + 1), do s.turned (s.parts depth)⟩

/-- Whether arguments hold that may have any number. -/
def Site.whole (s : Site) (args : List Bytes) : Except Fault Bool := do
  let depth := args.length + 1
  let (value, rest) ← (s.anyOf (s.parts depth) depth).run args
  if rest.isEmpty then return value
  else throw (.unexpectedOperator (args.getD (args.length - rest.length - 1) []))

/-- Whether a condition of three arguments holds: the one in the middle may be an operator. -/
def Site.three (s : Site) (a op b : Bytes) : Except Fault Bool :=
  if s.role? op = some .binary then s.binary a op b
  else if a = ['('] && b = [')'] then s.whole [op]
  else if a = ['!'] then (s.whole [op, b]).map not
  else s.whole [a, op, b]

/-- Whether an argument is an operator before one operand. -/
def Site.isUnary (s : Site) (arg : Bytes) : Bool :=
  unaryOperators.contains (String.ofList arg) || s.others.any fun entry => entry.1.toList = arg

/-- Whether a condition of two arguments holds, where their number decides what they are. -/
def Site.strictTwo (s : Site) (a b : Bytes) : Except Fault Bool :=
  if a = ['!'] then .ok b.isEmpty
  else if s.isUnary a then s.unary a b
  else .error (.unexpectedOperator a)

/-- Whether a condition of three arguments holds, where their number decides what they are. -/
def Site.strictThree (s : Site) (a op b : Bytes) : Except Fault Bool :=
  if s.role? op = some .binary then s.binary a op b
  else if op = ['-', 'a'] then .ok (!a.isEmpty && !b.isEmpty)
  else if op = ['-', 'o'] then .ok (!a.isEmpty || !b.isEmpty)
  else if a = ['!'] then (s.strictTwo op b).map not
  else if a = ['('] && b = [')'] then .ok (!op.isEmpty)
  else .error (.unexpectedOperator op)

/-- Whether a condition holds, where the number of arguments decides what they are. -/
def Site.strictHolds (s : Site) (args : List Bytes) : Except Fault Bool :=
  match args with
  | [] => .ok false
  | [a] => .ok (!a.isEmpty)
  | [a, b] => s.strictTwo a b
  | [a, op, b] => s.strictThree a op b
  | [a, b, c, d] =>
    if a = ['!'] then (s.strictThree b c d).map not
    else if a = ['('] && d = [')'] then s.strictTwo b c
    else s.whole args
  | _ => s.whole args

/-- Whether a condition holds. With few arguments their number decides what they are. -/
def Site.holds (s : Site) (args : List Bytes) : Except Fault Bool :=
  match args with
  | [] => .ok false
  | [a, op, b] => s.three a op b
  | [a, b, c, d] =>
    if a = ['('] && d = [')'] then s.whole [b, c]
    else if a = ['!'] then (s.three b c d).map not
    else s.whole args
  | _ => s.whole args

end Condition

end FormatChain.Tools
