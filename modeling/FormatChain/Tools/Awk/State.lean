import FormatChain.Process.Options
import FormatChain.Tools.Awk.Syntax
import FormatChain.Tools.Awk.Value

/-!
# Programs for records at work

A program at work has variables, arrays, a record with its fields, and what is left of what it reads.
What it writes is held back until a command has to run.

* `State`, `Run` : a program at work, and doing something in it.
* `setRecord`, `setField`, `setGlobal` : changing it.
* `nextRecord?` : the next record.
-/

namespace FormatChain.Tools.Awk

open FormatChain.Process

/-- What a name stands for in a function. -/
inductive Binding where
  /-- A value. -/
  | value (v : Value)
  /-- An array, by its number. -/
  | array (n : Nat)
  deriving Inhabited

/-- A program at work. -/
structure State where
  /-- The functions. -/
  functions : List Function
  /-- The variables. -/
  globals : Std.HashMap String Value := {}
  /-- The arrays of names. -/
  globalArrays : Std.HashMap String Nat := {}
  /-- The arrays. -/
  arrays : Std.HashMap Nat Table := {}
  /-- The number of the next array. -/
  nextArray : Nat := 0
  /-- What names stand for in the function that runs. -/
  locals : List (String × Binding) := []
  /-- The record. -/
  record : Bytes := []
  /-- The fields of the record. -/
  fields : Array Value := #[]
  /-- What is left of the file that is read. -/
  pending : Bytes := []
  /-- Whether a file is being read. -/
  reading : Bool := false
  /-- The place of the next operand. -/
  place : Nat := 1
  /-- Whether a file was named. -/
  named : Bool := false
  /-- What is left of files and commands that are read. -/
  sources : List (Bytes × Bytes) := []
  /-- The files that were opened for writing. -/
  opened : List Bytes := []
  /-- What commands are given, the latest first, the command that was given something last first. -/
  pipes : List (Bytes × List Bytes) := []
  /-- What was written and is held back, the latest first. -/
  held : List Bytes := []
  /-- The compiled patterns. -/
  patterns : Std.HashMap String Pattern := {}
  /-- The ranges that are open, by the number of the rule. -/
  openRanges : List Nat := []
  /-- The number with which the program ends. -/
  status : Nat := 0
  /-- What the numbers of chance were begun with. -/
  seed : Value := .number 0
  /-- The last numbers of chance, from which the next one follows, the oldest first. -/
  chance : List Nat := []
  deriving Inhabited

/-- Why statements are left. -/
inductive Stop where
  /-- The loop ends. -/
  | leave
  /-- The loop goes on with its next turn. -/
  | again
  /-- The next record. -/
  | next
  /-- The next file. -/
  | nextFile
  /-- The end. -/
  | exit
  /-- The end of a function. -/
  | return (v : Value)
  /-- Something went wrong. -/
  | fault (message : String)

/-- Running a program. -/
abbrev Run := ExceptT Stop (StateT State Running)

/-! ## Variables -/

/-- The format of numbers. -/
def numberFormat : Run Bytes := do
  match (← get).globals["CONVFMT"]? with
  | some (.text f) => return f
  | _ => return "%.6g".toList

/-- A global variable as a text. -/
def globalText (name : String) : Run Bytes := do
  return (((← get).globals[name]?).getD .unset).toText (← numberFormat)

/-- A value as a text. -/
def textValue (v : Value) : Run Bytes := do return v.toText (← numberFormat)

/-- Something went wrong that is told together with the place. -/
def failHere {α : Type} (message : String) : Run α := do
  let file ← globalText "FILENAME"
  let records (name : String) : Run Int := do
    return truncated (((← get).globals[name]?).getD .unset).toNumber
  let inFile ← records "FNR"
  let inAll ← records "NR"
  throw (.fault s!"run time error: {message}\n\tFILENAME=\"{textOf file}\" FNR={inFile} NR={inAll}")

/-- A record with a field at a place, the fields up to it filled up. -/
def withField (fields : Array Value) (n : Nat) (v : Value) : Array Value :=
  let filled := if fields.size < n then fields ++ (Array.replicate (n - fields.size) Value.unset) else fields
  filled.setIfInBounds (n - 1) v

/-- Puts the record together from its fields. -/
def rebuildRecord : Run Unit := do
  let separator ← globalText "OFS"
  let format ← numberFormat
  modify fun s => { s with
    record := joinWith separator (s.fields.toList.map (·.toText format))
    globals := s.globals.insert "NF" (.number (Float.ofNat s.fields.size)) }

/-! ## Patterns -/

/-- The pattern that bytes write. -/
def patternOf (bytes : Bytes) : Run Pattern := do
  let key := String.ofList bytes
  match (← get).patterns[key]? with
  | some p => return p
  | none =>
    match readPattern bytes with
    | .ok p =>
      modify fun s => { s with patterns := s.patterns.insert key p }
      return p
    | .error fault =>
      failHere s!"regular expression compile failed ({fault.message})\n{textOf bytes}"

/-- The pattern of a text that parts others; a single byte stands for itself. -/
def separatorPattern (bytes : Bytes) : Run Pattern := do
  match bytes with
  | [c] => return { regex := Regex.byte c }
  | _ => patternOf bytes

/-- The pieces of a text between fits of a pattern that are not empty, in at most so many steps; a
piece begins at `start`, and fits are looked for from `place` on. -/
def piecesFrom (p : Pattern) (text : Bytes) : Nat → Nat → Nat → List Bytes → List Bytes
  | 0, start, _, done => (text.drop start :: done).reverse
  | steps + 1, start, place, done =>
    match p.find? false text place with
    | none => (text.drop start :: done).reverse
    | some fit =>
      if fit.stop ≤ fit.start then
        if text.length ≤ fit.start then (text.drop start :: done).reverse
        else piecesFrom p text steps start (fit.start + 1) done
      else
        piecesFrom p text steps fit.stop fit.stop ((text.drop start).take (fit.start - start) :: done)

/-- The pieces of a text between fits of a pattern. -/
def piecesOf (p : Pattern) (text : Bytes) : List Bytes :=
  if text.isEmpty then [] else piecesFrom p text (text.length + 1) 0 0 []

/-- The fields of a text. -/
def fieldsOf (separator text : Bytes) : Run (List Bytes) := do
  if text.isEmpty then return []
  else
    match separator with
    | [' '] => return wordsOf text
    | [] => return text.map fun c => [c]
    | [c] => return splitAtByte c text
    | _ => return piecesOf (← separatorPattern separator) text

/-- Takes a text as the record. -/
def setRecord (text : Bytes) : Run Unit := do
  let parts ← fieldsOf (← globalText "FS") text
  let fields := (parts.map Value.ofInput).toArray
  modify fun s => { s with
    record := text
    fields
    globals := s.globals.insert "NF" (.number (Float.ofNat fields.size)) }

/-- Gives a field a value. -/
def setField (n : Nat) (v : Value) : Run Unit := do
  if n = 0 then setRecord (← textValue v)
  else
    modify fun s => { s with fields := withField s.fields n v }
    rebuildRecord

/-- What happens when a variable of the language gets a value. -/
def setGlobal (name : String) (v : Value) : Run Unit := do
  let v ← match name with
    | "CONVFMT" => do pure (.text (← textValue v))
    | _ => pure v
  modify fun s => { s with globals := s.globals.insert name v }
  if name = "NF" then
    let n := truncated v.toNumber
    if n < 0 then failHere "negative value assigned to NF"
    let n := n.toNat
    modify fun s => { s with
      fields := if s.fields.size < n then s.fields ++ Array.replicate (n - s.fields.size) Value.unset
        else s.fields.extract 0 n }
    rebuildRecord

/-- What a name stands for in the function that runs. -/
def localOf? (name : String) : Run (Option Binding) := do
  return ((← get).locals.find? fun entry => entry.1 = name).map (·.2)

/-- Changes what a name stands for in the function that runs. -/
def setLocal (name : String) (b : Binding) : Run Unit :=
  modify fun s => { s with
    locals := s.locals.map fun entry => if entry.1 = name then (name, b) else entry }

/-- The value of a variable. -/
def variableValue (name : String) : Run Value := do
  match ← localOf? name with
  | some (.value v) => return v
  | some (.array _) => return .unset
  | none => return ((← get).globals[name]?).getD .unset

/-- Gives a variable a value. -/
def setVariable (name : String) (v : Value) : Run Unit := do
  match ← localOf? name with
  | some _ => setLocal name (.value v)
  | none => setGlobal name v

/-! ## Arrays -/

/-- A new array. -/
def newArray : Run Nat := do
  let n := (← get).nextArray
  modify fun s => { s with nextArray := n + 1, arrays := s.arrays.insert n {} }
  return n

/-- The number of the array of a name. -/
def arrayOf (name : String) : Run Nat := do
  match ← localOf? name with
  | some (.array n) => return n
  | some (.value .unset) =>
    let n ← newArray
    setLocal name (.array n)
    return n
  | some (.value _) => failHere s!"type error in arg(1) in call to {name}"
  | none =>
    match (← get).globalArrays[name]? with
    | some n => return n
    | none =>
      let n ← newArray
      modify fun s => { s with globalArrays := s.globalArrays.insert name n }
      return n

/-- An array by its number. -/
def tableOf (n : Nat) : Run Table := do return ((← get).arrays[n]?).getD {}

/-- Changes an array. -/
def changeTable (n : Nat) (f : Table → Table) : Run Unit :=
  modify fun s => { s with arrays := s.arrays.insert n (f ((s.arrays[n]?).getD {})) }

/-- The value of an element, which is there afterwards. -/
def elementValue (n : Nat) (key : Key) : Run Value := do
  changeTable n fun t => t.touch true key
  return ((← tableOf n).find? key).getD .unset

/-- The key of values. -/
def keyOf (values : List Value) : Run Key := do
  let format ← numberFormat
  match values with
  | [.number x] =>
    match wholeNumber? x with
    | some n => return .number n
    | none => return .text (String.ofList (numberText format x))
  | [v] => return .text (String.ofList (v.toText format))
  | _ =>
    let separator ← globalText "SUBSEP"
    return .text (String.ofList (joinWith separator (values.map (·.toText format))))

/-! ## Reading -/

/-- The record at the start of bytes, and the rest; none if there is none. -/
def splitRecord? (separator : Bytes) (bytes : Bytes) : Run (Option (Bytes × Bytes)) := do
  match separator with
  | [] =>
    let bytes := bytes.dropWhile (· == '\n')
    if bytes.isEmpty then return none
    else
      match Pattern.find? { regex := .repeated (Regex.byte '\n') 2 none } false bytes 0 with
      | some fit => return some (bytes.take fit.start, bytes.drop fit.stop)
      | none =>
        let trimmed := (bytes.reverse.dropWhile (· == '\n')).reverse
        return some (trimmed, [])
  | [c] =>
    if bytes.isEmpty then return none
    else
      let record := bytes.takeWhile (· != c)
      return some (record, bytes.drop (record.length + 1))
  | _ =>
    if bytes.isEmpty then return none
    else
      match (← patternOf separator).find? false bytes 0 with
      | some fit =>
        if fit.start < fit.stop then return some (bytes.take fit.start, bytes.drop fit.stop)
        else return some (bytes, [])
      | none => return some (bytes, [])

/-- An assignment among the operands. -/
def assignment? (operand : Bytes) : Option (String × Bytes) :=
  let name := nameAt operand
  if name.isEmpty then none
  else
    match operand.drop name.length with
    | '=' :: value => some (String.ofList name, (unescape textEscapes value).1)
    | _ => none

/-- How many operands are looked at, at most. -/
def operandLimit : Nat := 100000

/-- How many operands there are. -/
def operandCount : Run Nat := do
  let count := truncated (← variableValue "ARGC").toNumber
  return min operandLimit count.toNat

/-- The operand at a place, if there is one. -/
def operandAt? (place : Nat) : Run (Option Bytes) := do
  match (← tableOf 0).find? (.number place) with
  | some v => return some (← textValue v)
  | none => return none

/-- Opens a file for its records. -/
def openFile (j : Job) (operand : Bytes) : Run Unit := do
  setGlobal "FILENAME" (.text operand)
  setGlobal "FNR" (.number 0)
  let found ← if operand = ['-'] then do
      pure (.ok (← liftM (m := Running) Running.takeInput))
    else liftM (m := Running) (Running.readFile j.cwd operand)
  match found with
  | .ok bytes => modify fun s => { s with pending := bytes, reading := true, named := true }
  | .error .isADirectory => throw (.fault s!"read error ({SystemError.isADirectory.words})")
  | .error e => throw (.fault s!"cannot open {textOf operand} ({e.words})")

/-- Opens the next file among the operands, in at most so many steps; whether there was one. -/
def openNext (j : Job) : Nat → Run Bool
  | 0 => return false
  | steps + 1 => do
    let s ← get
    if (← operandCount) ≤ s.place then
      if s.named then return false
      else
        let bytes ← liftM (m := Running) Running.takeInput
        setGlobal "FILENAME" (.text ['-'])
        modify fun s => { s with pending := bytes, reading := true, named := true }
        return true
    else
      modify fun s => { s with place := s.place + 1 }
      let operand := (← operandAt? s.place).getD []
      match assignment? operand with
      | some (name, value) =>
        setGlobal name (Value.ofInput value)
        openNext j steps
      | none =>
        if operand.isEmpty then openNext j steps
        else
          openFile j operand
          return true

/-- Adds one to a variable that counts. -/
def countUp (name : String) : Run Unit := do
  let n := (← variableValue name).toNumber
  modify fun s => { s with globals := s.globals.insert name (.number (n + 1)) }

/-- The next record of what comes in, in at most so many files. -/
def nextRecord? (j : Job) : Nat → Run (Option Bytes)
  | 0 => return none
  | steps + 1 => do
    let s ← get
    if !s.reading then
      if ← openNext j ((← operandCount) + 2) then nextRecord? j steps else return none
    else
      match ← splitRecord? (← globalText "RS") s.pending with
      | some (record, rest) =>
        modify fun s => { s with pending := rest }
        countUp "NR"
        countUp "FNR"
        return some record
      | none =>
        modify fun s => { s with reading := false }
        nextRecord? j steps

/-! ## Writing -/

/-- Writes what was held back. -/
def letGo : Run Unit := do
  let held := (← get).held
  modify fun s => { s with held := [] }
  liftM (m := Running) (Running.write held.reverse.flatten)

/-- Writes bytes, which are held back. -/
def emit (bytes : Bytes) : Run Unit := modify fun s => { s with held := bytes :: s.held }

/-! ## Numbers of chance -/

/-- The numbers that a number of chance depends on. -/
def chanceSpan : Nat := 31

/-- The number of chance after others, and the others after it. -/
def stepChance (numbers : List Nat) : Nat × List Nat :=
  let next := (numbers.headD 0 + numbers.getD (chanceSpan - 3) 0) % 2 ^ 32
  (next / 2, numbers.drop 1 ++ [next])

/-- The numbers that are multiples of those before them, so many. -/
def chanceMultiples : Nat → Nat → List Nat
  | 0, _ => []
  | count + 1, n => n :: chanceMultiples count (16807 * n % 2147483647)

/-- Takes so many numbers of chance. -/
def passChance : Nat → List Nat → List Nat
  | 0, numbers => numbers
  | count + 1, numbers => passChance count (stepChance numbers).2

/-- The numbers from which those of chance follow that were begun with a number. -/
def chanceFrom (seed : Nat) : List Nat :=
  let first := chanceMultiples chanceSpan (if seed % 2 ^ 32 = 0 then 1 else seed % 2 ^ 32)
  passChance 310 (first.drop 3 ++ first.take 3)

end FormatChain.Tools.Awk
