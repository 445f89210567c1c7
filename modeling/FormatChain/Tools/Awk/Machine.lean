import FormatChain.Calendar
import FormatChain.Tools.Awk.State

/-!
# Running programs for records

* `Machine`, `machine` : finding values and doing statements.
* `valueOf`, `performStatement` : how this is done, given how it is done for parts.
-/

namespace FormatChain.Tools.Awk

open FormatChain.Process

/-- Finding values and doing statements, and running a script of the system. -/
structure Machine where
  /-- The value of an expression. -/
  value : Expr → Run Value
  /-- Does a statement. -/
  perform : Statement → Run Unit
  /-- Runs a script of the system. -/
  system : Bytes → Running ExitStatus
  /-- The job of the program. -/
  job : Job

/-! ## Writing -/

/-- Writes bytes to a file, which is emptied when it is opened unless they are meant for its end. -/
def writeToFile (m : Machine) (name : Bytes) (append : Bool) (bytes : Bytes) : Run Unit := do
  let s ← get
  if name = "/dev/stdout".toList || name = ['-'] then emit bytes
  else if name = "/dev/stderr".toList then liftM (m := Running) (Running.put .complaints bytes)
  else
    let before ← if append || s.opened.contains name then do
        pure ((← liftM (m := Running) (Running.readFile m.job.cwd name)).toOption.getD [])
      else pure []
    modify fun s => { s with opened := name :: s.opened }
    match ← liftM (m := Running) (Running.writeFile m.job.cwd name (before ++ bytes)) with
    | .ok () => return
    | .error e => throw (.fault s!"cannot open \"{textOf name}\" for output ({e.words})")

/-- Writes bytes where a sink leads. -/
def writeTo (m : Machine) (sink : Sink) (bytes : Bytes) : Run Unit := do
  match sink with
  | .output => emit bytes
  | .file e => do writeToFile m (← textValue (← m.value e)) false bytes
  | .append e => do writeToFile m (← textValue (← m.value e)) true bytes
  | .command e =>
    let text ← textValue (← m.value e)
    match (← get).pipes.find? fun pipe => pipe.1 = text with
    | some (_, pieces) =>
      modify fun s => { s with
        pipes := (text, bytes :: pieces) :: s.pipes.filter fun pipe => pipe.1 != text }
    | none =>
      letGo
      modify fun s => { s with pipes := (text, [bytes]) :: s.pipes }

/-- Runs a script with bytes that come in; what comes in to the program stays. -/
def runScript (m : Machine) (script : Bytes) (input : Option Bytes) : Running ExitStatus := do
  let before := (← get).input
  match input with
  | some bytes => modify fun w => { w with input := bytes }
  | none => pure ()
  let status ← m.system script
  match input with
  | some _ => modify fun w => { w with input := before }
  | none => pure ()
  return status

/-- What a script writes. -/
def writtenBy (m : Machine) (script : Bytes) : Running Bytes := do
  let (_, bytes) ← Running.captured (m.system script)
  return bytes

/-- The number with which something ended. -/
def statusNumber : ExitStatus → Nat
  | .code n => n
  | .signal n => 256 + n

/-- Closes a file or a command; zero, or less if it was not open. -/
def close (m : Machine) (name : Bytes) : Run Value := do
  let s ← get
  match s.pipes.find? fun pipe => pipe.1 = name with
  | some (_, pieces) =>
    modify fun s => { s with pipes := s.pipes.filter fun pipe => pipe.1 != name }
    let status ← liftM (m := Running) (runScript m name (some pieces.reverse.flatten))
    return .number (Float.ofNat (statusNumber status))
  | none =>
    let known := s.opened.contains name || s.sources.any fun source => source.1 = name
    modify fun s => { s with
      opened := s.opened.filter (· != name)
      sources := s.sources.filter fun source => source.1 != name }
    return .number (if known then 0 else -1)

/-- Runs the commands that were given something, and writes what was held back. -/
def closeAll (m : Machine) : Run Unit := do
  for (script, pieces) in (← get).pipes do
    let _ ← liftM (m := Running) (runScript m script (some pieces.reverse.flatten))
  letGo

/-! ## Functions of the language -/

/-- The text with fits of a pattern replaced, at most so many, and how many were; `done` holds what was
made, the latest first. -/
def replaceFits (p : Pattern) (replacement : Bytes) (text : Bytes) :
    Nat → Nat → Nat → Option Nat → List Bytes → List Bytes × Nat
  | 0, place, count, _, done => (text.drop place :: done, count)
  | most + 1, place, count, last, done =>
    match p.find? false text place with
    | none => (text.drop place :: done, count)
    | some fit =>
      let before := (text.drop place).take (fit.start - place)
      let fitted := (text.drop fit.start).take (fit.stop - fit.start)
      if fit.start = fit.stop && last = some fit.start then
        if text.length ≤ fit.start then (text.drop place :: done, count)
        else
          let passed := (text.drop place).take (fit.start + 1 - place)
          replaceFits p replacement text most (fit.start + 1) count none (passed :: done)
      else
        let made := expand fitted replacement
        let done := made :: before :: done
        if fit.start = fit.stop && text.length ≤ fit.stop then (done, count + 1)
        else replaceFits p replacement text most fit.stop (count + 1) (some fit.stop) done
where
  /-- The replacement with what fitted in it. -/
  expand (fitted : Bytes) : Bytes → Bytes
    | '\\' :: '&' :: rest => '&' :: expand fitted rest
    | '\\' :: '\\' :: rest => '\\' :: expand fitted rest
    | '&' :: rest => fitted ++ expand fitted rest
    | c :: rest => c :: expand fitted rest
    | [] => []

/-- Gives a variable, a field or an element a value. -/
def assign (m : Machine) (target : Expr) (v : Value) : Run Unit := do
  match target with
  | .variable name => setVariable name v
  | .field e =>
    let n := truncated (← m.value e).toNumber
    if n < 0 then failHere s!"negative field index ${n}"
    else setField n.toNat v
  | .element name keys =>
    let key ← keyOf (← keys.mapM m.value)
    changeTable (← arrayOf name) fun t => t.insert key v
  | _ => return

/-- The pattern that an expression is: a pattern as it is written, or a text. -/
def patternValue (m : Machine) (e : Expr) : Run Pattern := do
  match e with
  | .pattern p => return p
  | e => patternOf (← textValue (← m.value e))

/-- Replaces fits in a variable, a field or an element. -/
def substitute (m : Machine) (everywhere : Bool) (args : List Expr) : Run Value := do
  let p ← patternValue m (args.headD (.text []))
  let replacement ← textValue (← m.value (args.getD 1 (.text [])))
  let target := args.getD 2 (.field (.number 0))
  let text ← textValue (← m.value target)
  let most := if everywhere then 2 * text.length + 2 else 1
  let (pieces, count) := replaceFits p replacement text most 0 0 none []
  if count > 0 then assign m target (.text pieces.reverse.flatten)
  return .number (Float.ofNat count)

/-- A part of a text from a place on, so long.  A place below one counts as one, and the part is longer
by as much as the place is below zero. -/
def partOf (text : Bytes) (start : Float) (length : Option Float) : Bytes :=
  let first := truncated start
  let length := match length with
    | some n => truncated n
    | none => 2 ^ 63
  let (first, length) := if first < 1 then (1, length - first) else (first, length)
  (text.drop (first - 1).toNat).take length.toNat

/-- Where a text stands in another one, from one on; zero if it does not. -/
def placeOf (wanted : Bytes) : Nat → Bytes → Nat
  | _, [] => 0
  | n, c :: rest => if wanted.isPrefixOf (c :: rest) then n else placeOf wanted (n + 1) rest

/-- The seconds since the start of 1970 of a day and a time, months and days beyond the usual ones
counting on. -/
def secondsAt (year month day hour minute second : Int) : Int :=
  let months := year * 12 + month - 1
  let first : Day := { year := months / 12, month := (months % 12).toNat + 1, day := 1 }
  (first.toNumber + day - 1) * 86400 + hour * 3600 + minute * 60 + second

/-- What a function of the language makes of values. -/
def callBuiltin (m : Machine) (name : String) (args : List Expr) : Run Value := do
  let arg (n : Nat) : Run Value :=
    match args[n]? with
    | some e => m.value e
    | none => return .unset
  let text (n : Nat) : Run Bytes := do textValue (← arg n)
  let number (n : Nat) : Run Float := do return (← arg n).toNumber
  match name with
  | "length" =>
    match args with
    | [] => return .number (Float.ofNat (← get).record.length)
    | [.variable name] =>
      match ← localOf? name with
      | some (.array n) => return .number (Float.ofNat (← tableOf n).size)
      | some (.value v) => return .number (Float.ofNat (← textValue v).length)
      | none =>
        match (← get).globalArrays[name]? with
        | some n => return .number (Float.ofNat (← tableOf n).size)
        | none => return .number (Float.ofNat (← text 0).length)
    | _ => return .number (Float.ofNat (← text 0).length)
  | "substr" =>
    let bytes ← text 0
    let start ← number 1
    let length ← if args.length > 2 then do pure (some (← number 2)) else pure none
    return .text (partOf bytes start length)
  | "index" =>
    let bytes ← text 0
    let wanted ← text 1
    return .number (if wanted.isEmpty then 1 else Float.ofNat (placeOf wanted 1 bytes))
  | "split" =>
    let bytes ← text 0
    match args.getD 1 (.text []) with
    | .variable array =>
      let pieces ← match args.drop 2 with
        | [] => do fieldsOf (← globalText "FS") bytes
        | .pattern p :: _ => pure (piecesOf p bytes)
        | e :: _ => do fieldsOf (← textValue (← m.value e)) bytes
      let n ← arrayOf array
      let table := (pieces.zipIdx 1).foldl (fun (t : Table) (piece, i) =>
        t.insert (.number (i : Nat)) (Value.ofInput piece)) {}
      changeTable n fun _ => table
      return .number (Float.ofNat pieces.length)
    | _ => failHere "type error in arg(2) in call to split"
  | "sub" => substitute m false args
  | "gsub" => substitute m true args
  | "match" =>
    let bytes ← text 0
    let p ← patternValue m (args.getD 1 (.text []))
    let (start, length) : Float × Float := match p.find? false bytes 0 with
      | some fit => (Float.ofNat (fit.start + 1), Float.ofNat (fit.stop - fit.start))
      | none => (0, -1)
    setGlobal "RSTART" (.number start)
    setGlobal "RLENGTH" (.number length)
    return .number start
  | "sprintf" =>
    let values ← args.mapM m.value
    let format ← textValue (values.headD .unset)
    match formatValues (← numberFormat) format (values.drop 1) with
    | .ok bytes => return .text bytes
    | .error fault => failHere (fault.message "sprintf" format)
  | "sin" => return .number (← number 0).sin
  | "cos" => return .number (← number 0).cos
  | "atan2" => do
    let y ← number 0
    return .number (Float.atan2 y (← number 1))
  | "exp" => return .number (← number 0).exp
  | "log" => return .number (← number 0).log
  | "sqrt" => return .number (← number 0).sqrt
  | "int" => do
    let x ← number 0
    return .number (if x < 0 then x.ceil else x.floor)
  | "rand" =>
    let (n, chance) := stepChance (← get).chance
    modify fun s => { s with chance }
    return .number (Float.ofNat n / 2147483647)
  | "srand" =>
    let before := (← get).seed
    let v ← if args.isEmpty then pure (Value.number 0) else arg 0
    modify fun s => { s with
      seed := match v with
        | .unset => .number 0
        | v => v
      chance := chanceFrom ((truncated v.toNumber) % 2 ^ 32).toNat }
    return before
  | "tolower" => return .text ((← text 0).map Char.toLower)
  | "toupper" => return .text ((← text 0).map Char.toUpper)
  | "system" =>
    let script ← text 0
    letGo
    let status ← liftM (m := Running) (runScript m script none)
    return .number (Float.ofNat (statusNumber status))
  | "close" => do
    letGo
    close m (← text 0)
  | "fflush" =>
    letGo
    match args with
    | [] => return .number 0
    | _ =>
      let name ← text 0
      let s ← get
      let known := s.opened.contains name || s.pipes.any fun pipe => pipe.1 = name
      return .number (if known then 0 else -1)
  | "strftime" =>
    let format ← if args.isEmpty then pure "%c".toList else text 0
    let seconds ← if args.length < 2 then pure 0 else do pure (truncated (← number 1))
    return .text (({ seconds } : Instant).shown format)
  | "mktime" =>
    match (wordsOf (← text 0)).map intOf? with
    | [some year, some month, some day, some hour, some minute, some second] =>
      return .number (Float.ofInt (secondsAt year month day hour minute second))
    | [some year, some month, some day, some hour, some minute, some second, _] =>
      return .number (Float.ofInt (secondsAt year month day hour minute second))
    | _ => return .number (-1)
  | _ => return .number 0

/-! ## Expressions -/

/-- What an operator makes of two values. -/
def operate (op : Operator) (a b : Value) : Run Value := do
  let format ← numberFormat
  let numbers (f : Float → Float → Float) : Value := .number (f a.toNumber b.toNumber)
  let order := a.compare format b
  return match op with
    | .add => numbers (· + ·)
    | .subtract => numbers (· - ·)
    | .multiply => numbers (· * ·)
    | .divide => numbers (· / ·)
    | .remainder =>
      numbers fun x y =>
        let q := x / y
        let whole := if q < 0 then q.ceil else q.floor
        x - whole * y
    | .power => numbers Float.pow
    | .concatenate => .text (a.toText format ++ b.toText format)
    | .less => .ofBool (order == .lt)
    | .lessOrEqual => .ofBool (order != .gt)
    | .equal => .ofBool (order == .eq)
    | .notEqual => .ofBool (order != .eq)
    | .greaterOrEqual => .ofBool (order != .lt)
    | .greater => .ofBool (order == .gt)

/-- Takes a line that was read: into the record, or into something else. -/
def takeLine (m : Machine) (target : Option Expr) (line : Bytes) : Run Value := do
  match target with
  | none => setRecord line
  | some target => assign m target (Value.ofInput line)
  return .number 1

/-- The next line of a source, which is opened if need be. -/
def nextOfSource (name : Bytes) (start : Run (Option Bytes)) : Run (Option (Option Bytes)) := do
  let s ← get
  let left? ← match s.sources.find? fun source => source.1 = name with
    | some (_, left) => pure (some left)
    | none => start
  match left? with
  | none => return none
  | some left =>
    let others := s.sources.filter fun source => source.1 != name
    match ← splitRecord? (← globalText "RS") left with
    | some (line, rest) =>
      modify fun s => { s with sources := (name, rest) :: others }
      return some (some line)
    | none =>
      modify fun s => { s with sources := (name, []) :: others }
      return some none

/-- What a parameter of a function stands for that is given an expression. -/
def bindArgument (m : Machine) (e : Expr) : Run Binding := do
  match e with
  | .variable name =>
    match ← localOf? name with
    | some (.array n) => return .array n
    | some (.value .unset) =>
      let n ← newArray
      setLocal name (.array n)
      return .array n
    | some (.value v) => return .value v
    | none =>
      let s ← get
      match s.globalArrays[name]?, s.globals[name]? with
      | some n, _ => return .array n
      | none, some v => return .value v
      | none, none => do
        let n ← newArray
        modify fun s => { s with globalArrays := s.globalArrays.insert name n }
        return .array n
  | e => return .value (← m.value e)

/-- Calls a function. -/
def callFunction (m : Machine) (name : String) (args : List Expr) : Run Value := do
  match (← get).functions.find? fun f => f.name = name with
  | none => throw (.fault s!"function {name} never defined")
  | some f =>
    let given ← args.mapM (bindArgument m)
    let outer := (← get).locals
    let inner := f.parameters.zipIdx.map fun (parameter, i) =>
      (parameter, given.getD i (.value .unset))
    modify fun s => { s with locals := inner }
    let result ← tryCatch (do m.perform f.body; return Value.unset) fun stop =>
      match stop with
      | .return v => return v
      | other => do
        modify fun s => { s with locals := outer }
        throw other
    modify fun s => { s with locals := outer }
    return result

/-- The value of an expression, given how its parts are treated. -/
def valueOf (m : Machine) (e : Expr) : Run Value := do
  match e with
  | .number x => return .number x
  | .text bytes => return .text bytes
  | .pattern p => return .ofBool (p.fitsIn (← get).record)
  | .variable name => variableValue name
  | .field n =>
    let n := truncated (← m.value n).toNumber
    if n < 0 then failHere s!"negative field index ${n}"
    else if n = 0 then return Value.ofInput (← get).record
    else return (← get).fields.getD (n.toNat - 1) .unset
  | .element name keys =>
    let key ← keyOf (← keys.mapM m.value)
    elementValue (← arrayOf name) key
  | .assign target value =>
    let v ← m.value value
    assign m target v
    return v
  | .update op target value =>
    let b ← m.value value
    let a ← m.value target
    let v ← operate op a b
    assign m target v
    return v
  | .count target step before =>
    let x := (← m.value target).toNumber
    assign m target (.number (x + step))
    return .number (if before then x else x + step)
  | .choose c yes no => if (← m.value c).holds then m.value yes else m.value no
  | .and a b => if (← m.value a).holds then return .ofBool (← m.value b).holds else return .ofBool false
  | .or a b => if (← m.value a).holds then return .ofBool true else return .ofBool (← m.value b).holds
  | .not a => return .ofBool (!(← m.value a).holds)
  | .minus a => return .number (-(← m.value a).toNumber)
  | .plus a => return .number (← m.value a).toNumber
  | .member keys array =>
    let key ← keyOf (← keys.mapM m.value)
    let n ← arrayOf array
    changeTable n fun t => t.touch false key
    return .ofBool ((← tableOf n).find? key).isSome
  | .fits text pattern =>
    let bytes ← textValue (← m.value text)
    return .ofBool ((← patternValue m pattern).fitsIn bytes)
  | .binary op a b =>
    let x ← m.value a
    let y ← m.value b
    operate op x y
  | .call name args => callFunction m name args
  | .builtin name args => callBuiltin m name args
  | .readMain target =>
    match ← nextRecord? m.job ((← operandCount) + 3) with
    | some line => takeLine m target line
    | none => return .number 0
  | .readFile name target =>
    let file ← textValue (← m.value name)
    let found ← nextOfSource file do
      if file = ['-'] then return some (← liftM (m := Running) Running.takeInput)
      else return (← liftM (m := Running) (Running.readFile m.job.cwd file)).toOption
    match found with
    | none => return .number (-1)
    | some none => return .number 0
    | some (some line) => takeLine m target line
  | .readCommand text target =>
    let script ← textValue (← m.value text)
    let found ← nextOfSource script do
      return some (← liftM (m := Running) (writtenBy m script))
    match found with
    | some (some line) =>
      countUp "NR"
      takeLine m target line
    | _ => return .number 0
  | .several items =>
    match items with
    | [e] => m.value e
    | items => do return .text (← keyOf (← items.mapM m.value)).shown.toList

/-! ## Statements -/

/-- How many turns a loop may take. -/
def turnLimit : Nat := 1000000

/-- Does the body of a loop; whether the loop goes on. -/
def turn (m : Machine) (body : Statement) : Run Bool :=
  tryCatch (do m.perform body; return true) fun stop =>
    match stop with
    | .leave => return false
    | .again => return true
    | other => throw other

/-- A loop with a condition and a step, at most so many turns. -/
def loop (m : Machine) (condition : Option Expr) (step : Option Statement) (body : Statement) :
    Nat → Run Unit
  | 0 => liftM (m := Running) Running.neverEnd
  | turns + 1 => do
    let goes ← match condition with
      | some c => do pure (← m.value c).holds
      | none => pure true
    if goes then
      if ← turn m body then
        match step with
        | some s => m.perform s
        | none => pure ()
        loop m condition step body turns

/-- Writes values. -/
def printValues (m : Machine) (items : List Expr) (sink : Sink) : Run Unit := do
  let ending ← globalText "ORS"
  if items.isEmpty then writeTo m sink ((← get).record ++ ending)
  else
    let values ← items.mapM m.value
    let format ← globalText "OFMT"
    let separator ← globalText "OFS"
    writeTo m sink (joinWith separator (values.map (·.toText format)) ++ ending)

/-- Does a statement, given how its parts are treated. -/
def performStatement (m : Machine) (s : Statement) : Run Unit := do
  match s with
  | .evaluate e => do let _ ← m.value e
  | .print items sink => printValues m items sink
  | .printf items sink =>
    let values ← items.mapM m.value
    let format ← textValue (values.headD .unset)
    match formatValues (← numberFormat) format (values.drop 1) with
    | .ok bytes => writeTo m sink bytes
    | .error fault => failHere (fault.message "printf" format)
  | .choose c yes no =>
    if (← m.value c).holds then m.perform yes
    else
      match no with
      | some no => m.perform no
      | none => return
  | .whileLoop c body => loop m (some c) none body turnLimit
  | .doLoop body c => do
    if ← turn m body then loop m (some c) none body turnLimit
  | .forLoop start c step body => do
    match start with
    | some s => m.perform s
    | none => pure ()
    loop m c step body turnLimit
  | .forKeys name array body =>
    let n ← arrayOf array
    changeTable n Table.withTexts
    let keys := (← tableOf n).keys
    let mut going := true
    for key in keys do
      if going then
        setVariable name (Value.ofInput key.toList)
        going ← turn m body
  | .block items => items.forM m.perform
  | .leave => throw .leave
  | .again => throw .again
  | .next => throw .next
  | .nextFile => throw .nextFile
  | .exit status =>
    match status with
    | some e =>
      let n := truncated (← m.value e).toNumber
      modify fun s => { s with status := (n % 256).toNat }
    | none => pure ()
    throw .exit
  | .return value =>
    match value with
    | some e => do throw (.return (← m.value e))
    | none => throw (.return .unset)
  | .delete array keys =>
    let key ← keyOf (← keys.mapM m.value)
    changeTable (← arrayOf array) fun t => t.erase key
  | .deleteAll array =>
    changeTable (← arrayOf array) fun _ => {}

/-- Finding values and doing statements, nested up to so deep. -/
def machine (system : Bytes → Running ExitStatus) (job : Job) : Nat → Machine
  | 0 => ⟨fun _ => throw (.fault "stack overflow"), fun _ => throw (.fault "stack overflow"), system, job⟩
  | depth + 1 =>
    ⟨fun e => valueOf (machine system job depth) e,
      fun s => performStatement (machine system job depth) s, system, job⟩

/-- How deep parts may be nested. -/
def depthLimit : Nat := 3000

end FormatChain.Tools.Awk
