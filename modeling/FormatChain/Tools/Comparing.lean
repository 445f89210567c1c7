import FormatChain.Process.Numeral
import FormatChain.Process.Options

/-!
# Whether two files are the same

Two files are compared byte by byte.  The first byte in which they differ is told, or all of them.

* `Comparison` : how they are compared.
* `firstDifference`, `differences` : where they differ.
* `cmp` : the command.
-/

namespace FormatChain.Tools

open FormatChain.Process

/-- How two files are compared. -/
structure Comparison where
  /-- Whether all differences are told. -/
  all : Bool := false
  /-- Whether nothing is told. -/
  silent : Bool := false
  /-- Whether bytes are shown. -/
  shown : Bool := false
  /-- How many bytes are compared at most. -/
  most : Option Nat := none
  /-- How many bytes of the first file are passed over. -/
  skipFirst : Nat := 0
  /-- How many bytes of the second file are passed over. -/
  skipSecond : Nat := 0

/-- The place of the first byte in which bytes differ, and the line of it. -/
def firstDifference (place line : Nat) : Bytes → Bytes → Option (Nat × Nat × Char × Char)
  | a :: as, b :: bs =>
    if a = b then firstDifference (place + 1) (if a = '\n' then line + 1 else line) as bs
    else some (place, line, a, b)
  | _, _ => none

/-- The places of all bytes in which bytes differ. -/
def differences (place : Nat) : Bytes → Bytes → List (Nat × Char × Char)
  | a :: as, b :: bs =>
    let others := differences (place + 1) as bs
    if a = b then others else (place, a, b) :: others
  | _, _ => []

/-- A byte as it is shown: with a mark if its greatest binary digit is set, and with another one if it is a
control byte. -/
def byteShown (c : Char) : Bytes :=
  let n := c.toNat
  let rest := n % 128
  let plain : Bytes := if rest < 32 then ['^', Char.ofNat (rest + 64)]
    else if rest = 127 then ['^', '?'] else [Char.ofNat rest]
  if n < 128 then plain else 'M' :: '-' :: plain

/-- A byte in base eight. -/
def byteOctal (c : Char) : Bytes := padStart 3 (octalText c.toNat)

/-- A complaint about the arguments, which points to the help. -/
def misusedComparison (j : Job) (text : String) : Running ExitStatus := do
  j.complain text
  j.complain j.hint
  return .code 2

/-- How two files are compared, after an option, or what is said of it. -/
def Comparison.adding (c : Comparison) (g : Given) : Except String Comparison :=
  let amount (bytes : Bytes) : Option Nat :=
    match amountAt "kKMGTPEZY0" 0 greatestSigned bytes with
    | .ok n => some n.toNat
    | .error .beyond => some greatestSigned.toNat
    | .error _ => none
  match g.letter with
  | 'b' | 'c' => .ok { c with shown := true }
  | 'l' => .ok { c with all := true }
  | 's' => .ok { c with silent := true }
  | 'n' =>
    match amount g.value with
    | some n => .ok { c with most := some (min n (c.most.getD n)) }
    | none => .error s!"invalid --bytes value '{textOf g.value}'"
  | _ =>
    let first := g.value.takeWhile (· != ':')
    let second := if first.length < g.value.length then g.value.drop (first.length + 1) else first
    match amount first, amount second with
    | some m, some n => .ok { c with skipFirst := m, skipSecond := n }
    | _, _ => .error s!"invalid --ignore-initial value '{textOf g.value}'"

/-- The line for a difference among all; the place stands at the end of so many columns. -/
def Comparison.line (c : Comparison) (width : Nat) (place : Nat) (a b : Char) : Bytes :=
  let first := byteShown a
  padStart width (digitsOf place) ++ ' ' :: byteOctal a
    ++ (if c.shown then ' ' :: first ++ List.replicate (4 - first.length) ' ' else [])
    ++ ' ' :: byteOctal b ++ (if c.shown then ' ' :: byteShown b else [])

/-- Compares two files, the names of which are given. -/
def Comparison.compareFiles (c : Comparison) (j : Job) (first second : Bytes) : Running ExitStatus := do
  let read (name : Bytes) : Running (Option Bytes) := do
    if !c.silent then j.readOperand name
    else if name = ['-'] then return some (← Running.takeInput)
    else return (← Running.readFile j.cwd name).toOption
  let some a ← read first | return .code 2
  let some b ← if first = second then pure (some a) else read second | return .code 2
  let cut (bytes : Bytes) := match c.most with
    | some n => bytes.take n
    | none => bytes
  let lengths := ([(first, a.length - c.skipFirst), (second, b.length - c.skipSecond)].filter fun entry =>
    entry.1 ≠ ['-']).map (·.2)
  let greatest := (lengths ++ c.most.toList).foldl min greatestSigned.toNat
  let a := cut (a.drop c.skipFirst)
  let b := cut (b.drop c.skipSecond)
  let found := if c.all then differences 1 a b else []
  for (place, x, y) in found do
    Running.writeLine (c.line (digitsOf greatest).length place x y)
  match if c.all then none else firstDifference 1 1 a b with
  | some (place, line, x, y) =>
    if !c.silent then
      let bytes := if c.shown then
          s!" is {textOf (byteOctal x)} {textOf (byteShown x)} {textOf (byteOctal y)} {textOf (byteShown y)}"
        else ""
      let unit := if c.shown then "byte" else "char"
      Running.writeLine
        (bytesOf s!"{textOf first} {textOf second} differ: {unit} {place}, line {line}{bytes}")
    return .code 1
  | none =>
    if a.length = b.length then return statusOf found.isEmpty
    else
      let (short, bytes) := if a.length < b.length then (first, a) else (second, b)
      if !c.silent then
        let lines := (bytes.filter (· = '\n')).length
        let place := if bytes.isEmpty then " which is empty"
          else if c.all then s!" after byte {bytes.length}"
          else if bytes.getLast? = some '\n' then s!" after byte {bytes.length}, line {lines}"
          else s!" after byte {bytes.length}, in line {lines + 1}"
        j.complain s!"EOF on {textOf short}{place}"
      return .code 1

/-- Tells whether two files are the same. -/
def cmp : Program := fun j => do
  let rules : OptionRules := {
    letters := "bci:ln:s"
    words := [("print-bytes", 'b'), ("print-chars", 'c'), ("ignore-initial", 'i'), ("verbose", 'l'),
      ("bytes", 'n'), ("silent", 's'), ("quiet", 's')] }
  let (given, operands) := rules.readSoFar j.args
  match given.foldlM Comparison.adding {}, operands with
  | .error fault, _ => misusedComparison j fault
  | .ok _, .error fault => misusedComparison j fault
  | .ok c, .ok operands =>
    if c.all && c.silent then misusedComparison j "options -l and -s are incompatible"
    else
      match operands with
      | [] => misusedComparison j s!"missing operand after '{textOf (j.args.getLast?.getD j.name)}'"
      | [first] => c.compareFiles j first ['-']
      | first :: second :: skips =>
        match skips.take 2 |>.map fun skip => (skip, c.adding ⟨'i', skip⟩) with
        | [] => c.compareFiles j first second
        | (skip, .error _) :: _ => misusedComparison j s!"invalid --ignore-initial value '{textOf skip}'"
        | [(_, .ok d)] =>
          let c := { c with skipFirst := d.skipFirst }
          c.compareFiles j first second
        | (_, .ok d) :: (skip, other) :: _ =>
          match other, skips.drop 2 with
          | .error _, _ => misusedComparison j s!"invalid --ignore-initial value '{textOf skip}'"
          | .ok _, extra :: _ => misusedComparison j s!"extra operand '{textOf extra}'"
          | .ok e, [] =>
            let c := { c with skipFirst := d.skipFirst, skipSecond := e.skipFirst }
            c.compareFiles j first second

end FormatChain.Tools
