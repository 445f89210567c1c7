import FormatChain.Process.Bytes
import FormatChain.Regex.Search

/-!
# Programs for records

A program for records is a list of rules, with patterns in them.

A program for records is a list of rules.  A rule says for which records it is meant, and what is
done then.  There are variables, arrays, fields of the record, and functions.

* `Expr` : what has a value.
* `Statement` : what is done.
* `Rule`, `Function`, `Script` : programs.
* `PatternFault` : what is wrong with a pattern.
* `readPattern` : the pattern that bytes write.
-/

namespace FormatChain.Tools.Awk

open FormatChain.Process

/-- An operator between two values. -/
inductive Operator where
  /-- The sum. -/
  | add
  /-- The difference. -/
  | subtract
  /-- The product. -/
  | multiply
  /-- The quotient. -/
  | divide
  /-- The remainder. -/
  | remainder
  /-- The power. -/
  | power
  /-- Both texts one after the other. -/
  | concatenate
  /-- Whether the first comes before the second. -/
  | less
  /-- Whether the first does not come after the second. -/
  | lessOrEqual
  /-- Whether both are the same. -/
  | equal
  /-- Whether both differ. -/
  | notEqual
  /-- Whether the first does not come before the second. -/
  | greaterOrEqual
  /-- Whether the first comes after the second. -/
  | greater
  deriving Repr, DecidableEq

/-- Where a line is read from. -/
inductive Source (α : Type) where
  /-- What comes in. -/
  | main
  /-- A file. -/
  | file (name : α)
  /-- What a command writes. -/
  | command (text : α)

/-- What has a value. -/
inductive Expr where
  /-- A number. -/
  | number (x : Float)
  /-- A text. -/
  | text (bytes : Bytes)
  /-- A pattern, which stands for whether it fits the record. -/
  | pattern (p : Pattern)
  /-- A variable. -/
  | variable (name : String)
  /-- A field of the record. -/
  | field (n : Expr)
  /-- An element of an array. -/
  | element (array : String) (keys : List Expr)
  /-- A variable, a field or an element that gets a value. -/
  | assign (target value : Expr)
  /-- A variable, a field or an element that gets what an operator makes of it. -/
  | update (op : Operator) (target value : Expr)
  /-- A variable, a field or an element that grows by a number; its value before or after. -/
  | count (target : Expr) (by_ : Float) (before : Bool)
  /-- One value or another. -/
  | choose (condition yes no : Expr)
  /-- Whether both hold. -/
  | and (a b : Expr)
  /-- Whether one holds. -/
  | or (a b : Expr)
  /-- Whether it does not hold. -/
  | not (a : Expr)
  /-- The number with the other sign. -/
  | minus (a : Expr)
  /-- The number. -/
  | plus (a : Expr)
  /-- Whether an element is there. -/
  | member (keys : List Expr) (array : String)
  /-- Whether a pattern fits a text. -/
  | fits (text pattern : Expr)
  /-- What an operator makes of two values. -/
  | binary (op : Operator) (a b : Expr)
  /-- What a function makes of values. -/
  | call (name : String) (args : List Expr)
  /-- What a function of the language makes of values. -/
  | builtin (name : String) (args : List Expr)
  /-- A line read into the record or something else: one, zero at the end, less if it fails. -/
  | readMain (target : Option Expr)
  /-- A line of a file. -/
  | readFile (name : Expr) (target : Option Expr)
  /-- A line that a command writes. -/
  | readCommand (text : Expr) (target : Option Expr)
  /-- Values in parentheses, to be written or looked up. -/
  | several (items : List Expr)
  deriving Inhabited

/-- Where something is written. -/
inductive Sink where
  /-- Where the program writes. -/
  | output
  /-- A file that is emptied first. -/
  | file (name : Expr)
  /-- The end of a file. -/
  | append (name : Expr)
  /-- A command. -/
  | command (text : Expr)
  deriving Inhabited

/-- What is done. -/
inductive Statement where
  /-- A value is found. -/
  | evaluate (e : Expr)
  /-- Values are written, or the record. -/
  | print (items : List Expr) (sink : Sink)
  /-- Values are written in a format. -/
  | printf (items : List Expr) (sink : Sink)
  /-- One thing or another is done. -/
  | choose (condition : Expr) (yes : Statement) (no : Option Statement)
  /-- Something is done as long as a condition holds. -/
  | whileLoop (condition : Expr) (body : Statement)
  /-- Something is done, and again as long as a condition holds. -/
  | doLoop (body : Statement) (condition : Expr)
  /-- Something is done with a beginning, a condition and a step. -/
  | forLoop (start : Option Statement) (condition : Option Expr) (step : Option Statement)
      (body : Statement)
  /-- Something is done for each key of an array. -/
  | forKeys (name array : String) (body : Statement)
  /-- Things are done one after the other. -/
  | block (items : List Statement)
  /-- The loop ends. -/
  | leave
  /-- The loop goes on with its next turn. -/
  | again
  /-- The next record. -/
  | next
  /-- The next file. -/
  | nextFile
  /-- The end. -/
  | exit (status : Option Expr)
  /-- The end of a function. -/
  | return (value : Option Expr)
  /-- An element is taken away. -/
  | delete (array : String) (keys : List Expr)
  /-- All elements are taken away. -/
  | deleteAll (array : String)
  deriving Inhabited

/-- For which records a rule is meant. -/
inductive Condition where
  /-- None; before the first one. -/
  | start
  /-- None; after the last one. -/
  | finish
  /-- All. -/
  | always
  /-- Those for which a value holds. -/
  | holds (e : Expr)
  /-- Those from one to another. -/
  | between (first last : Expr)
  deriving Inhabited

/-- A rule. -/
structure Rule where
  /-- For which records. -/
  condition : Condition
  /-- What is done; the record is written if nothing is said. -/
  action : Option Statement
  deriving Inhabited

/-- A function. -/
structure Function where
  /-- The name. -/
  name : String
  /-- The names of what it is given. -/
  parameters : List String
  /-- What is done. -/
  body : Statement
  deriving Inhabited

/-- A program. -/
structure Script where
  /-- The rules. -/
  rules : List Rule
  /-- The functions. -/
  functions : List Function
  deriving Inhabited

end FormatChain.Tools.Awk

/-!
## Patterns in programs for records

Programs for records write patterns in the extended way with rules of their own: a brace counts
nothing, a backslash stands before bytes that are meant as they are, edges may stand anywhere, and a
parenthesis that closes nothing stands for itself.
-/

namespace FormatChain.Tools.Awk

open FormatChain.Process

/-- What is wrong with a written pattern. -/
inductive PatternFault where
  /-- A group has no end. -/
  | openGroup
  /-- A set has no end, or no set has the name. -/
  | badSet
  /-- Nothing is there to be repeated or chosen. -/
  | noOperand
  /-- The start of a text is repeated. -/
  | repeatedStart
  deriving Repr, DecidableEq

/-- The wording of what is wrong. -/
def PatternFault.message : PatternFault → String
  | .openGroup => "missing ')'"
  | .badSet => "bad class -- [], [^] or ["
  | .noOperand => "missing operand"
  | .repeatedStart => "syntax error ^* or ^+"

/-- Reading a pattern: the bytes that are left, or what is wrong. -/
abbrev ReadingPattern := StateT Bytes (Except PatternFault)

/-- The byte that stands after a backslash, and the rest. -/
def escapedByte : Bytes → Char × Bytes
  | [] => ('\\', [])
  | c :: rest =>
    match c with
    | 'n' => ('\n', rest)
    | 't' => ('\t', rest)
    | 'f' => ('\x0c', rest)
    | 'b' => ('\x08', rest)
    | 'r' => ('\r', rest)
    | 'a' => ('\x07', rest)
    | 'v' => ('\x0b', rest)
    | _ =>
      match readDigits octalDigit? 8 3 0 0 (c :: rest) with
      | (n, _ + 1, rest) => (Char.ofNat (n % 256), rest)
      | _ =>
        if c = 'x' then
          match readDigits hexDigit? 16 2 0 0 rest with
          | (n, _ + 1, rest) => (Char.ofNat n, rest)
          | _ => (c, rest)
        else (c, rest)

/-! ### Sets -/

/-- A byte of a set, and the rest. -/
def setByte : Bytes → Char × Bytes
  | '\\' :: rest => escapedByte rest
  | c :: rest => (c, rest)
  | [] => ('\\', [])

/-- The ranges of a set up to its end, and the rest, in at most so many steps. -/
def setRanges (first : Bool) (found : List ByteRange) :
    Nat → Bytes → Except PatternFault (List ByteRange × Bytes)
  | 0, _ => .error .badSet
  | _, [] => .error .badSet
  | steps + 1, text =>
    match text, first with
    | ']' :: rest, false => .ok (found, rest)
    | '[' :: ':' :: rest, _ =>
      let name := rest.takeWhile Char.isAlpha
      match rest.drop name.length with
      | ':' :: ']' :: rest =>
        match Regex.nameSet? (String.ofList name) with
        | some ranges => setRanges false (found ++ ranges) steps rest
        | none => .error .badSet
      | _ => .error .badSet
    | _, _ =>
      let (low, rest) := setByte text
      match rest with
      | '-' :: ']' :: _ => setRanges false (found ++ [⟨low, low⟩]) steps rest
      | '-' :: after =>
        if after.isEmpty then .error .badSet
        else
          let (high, after) := setByte after
          if low ≤ high then setRanges false (found ++ [⟨low, high⟩]) steps after
          else setRanges false (found ++ [⟨low, low⟩, ⟨'-', '-'⟩, ⟨high, high⟩]) steps after
      | _ => setRanges false (found ++ [⟨low, low⟩]) steps rest

/-- The set after its opening bracket, and the rest. -/
def readSet (text : Bytes) : Except PatternFault (Regex × Bytes) := do
  match text with
  | '^' :: rest =>
    let (ranges, rest) ← setRanges true [] (rest.length + 1) rest
    return (.oneOf ranges false, rest)
  | _ =>
    let (ranges, rest) ← setRanges true [] (text.length + 1) text
    return (.oneOf ranges true, rest)

/-! ### Patterns -/

/-- The pattern with the repetitions after it, in at most so many steps. -/
def readRepeats (r : Regex) : Nat → ReadingPattern Regex
  | 0 => return r
  | steps + 1 => do
    let again (least : Nat) (most : Option Nat) (rest : Bytes) : ReadingPattern Regex := do
      set rest
      readRepeats (.repeated r least most) steps
    match ← get with
    | '*' :: rest => if r = .edge .textStart then throw .repeatedStart else again 0 none rest
    | '+' :: rest => if r = .edge .textStart then throw .repeatedStart else again 1 none rest
    | '?' :: rest => again 0 (some 1) rest
    | _ => return r

/-- One pattern without the repetitions after it, given how the inside of a group is read. -/
def readPart (inside : ReadingPattern Regex) : ReadingPattern Regex := do
  match ← get with
  | [] => throw .noOperand
  | c :: rest =>
    set rest
    match c with
    | '(' => do
      let r ← inside
      match ← get with
      | ')' :: rest =>
        set rest
        return r
      | _ => throw .openGroup
    | '[' =>
      let (r, rest) ← liftM (readSet rest)
      set rest
      return r
    | '\\' =>
      let (byte, rest) := escapedByte rest
      set rest
      return Regex.byte byte
    | '.' => return .any
    | '^' => return .edge .textStart
    | '$' => return .edge .textEnd
    | '*' => throw .noOperand
    | '+' => throw .noOperand
    | '?' => throw .noOperand
    | c => return Regex.byte c

/-- Patterns one after the other up to a bar or the end of the group, in at most so many steps. -/
def readBranch (inside : ReadingPattern Regex) (grouped : Bool) (done : List Regex) :
    Nat → ReadingPattern Regex
  | 0 => return Regex.sequence done.reverse
  | steps + 1 => do
    let finish : ReadingPattern Regex := do
      if done.isEmpty then throw .noOperand else return Regex.sequence done.reverse
    match ← get with
    | [] => if grouped then throw .openGroup else finish
    | '|' :: _ => finish
    | c :: rest =>
      if c = ')' && grouped then finish
      else
        let part ← readPart inside
        let part ← readRepeats part (rest.length + 1)
        readBranch inside grouped (part :: done) steps

/-- Branches with bars between them, in at most so many steps. -/
def readBranches (inside : ReadingPattern Regex) (grouped : Bool) : Nat → ReadingPattern Regex
  | 0 => throw .noOperand
  | steps + 1 => do
    let branch ← readBranch inside grouped [] ((← get).length + 1)
    match ← get with
    | '|' :: rest =>
      set rest
      return .either branch (← readBranches inside grouped steps)
    | _ => return branch

/-- A group with groups in it nested up to so deep. -/
def readGrouped : Nat → ReadingPattern Regex
  | 0 => throw .openGroup
  | depth + 1 => do readBranches (readGrouped depth) true ((← get).length + 1)

/-- The pattern that bytes write, or what is wrong with them. -/
def readPattern (bytes : Bytes) : Except PatternFault Pattern :=
  if bytes.isEmpty then .ok { regex := .empty }
  else
    match (readBranches (readGrouped (bytes.length + 1)) false (bytes.length + 1)).run bytes with
    | .ok (regex, _) => .ok { regex }
    | .error e => .error e

end FormatChain.Tools.Awk
