import FormatChain.Tools.Awk.Machine
import FormatChain.Tools.Awk.Reading

/-!
# The command that runs programs for records

* `runProgram` : runs the rules of a program.
* `awk` : the command.
-/

namespace FormatChain.Tools.Awk

open FormatChain.Process

/-! ## Rules -/

/-- Whether a rule is meant for the record. -/
def isMeant (m : Machine) (n : Nat) : Condition → Run Bool
  | .start => return false
  | .finish => return false
  | .always => return true
  | .holds e => do return (← m.value e).holds
  | .between first last => do
    let isOpen := (← get).openRanges.contains n
    let starts ← if isOpen then pure true else do pure (← m.value first).holds
    if !starts then return false
    else
      let stops := (← m.value last).holds
      modify fun s => { s with
        openRanges := if stops then s.openRanges.filter (· != n)
          else if isOpen then s.openRanges else n :: s.openRanges }
      return true

/-- Runs the rules for the record. -/
def runRules (m : Machine) (rules : List (Rule × Nat)) : Run Unit :=
  rules.forM fun (rule, n) => do
    if ← isMeant m n rule.condition then
      match rule.action with
      | some action => m.perform action
      | none => printValues m [] .output

/-- Runs the rules for all records, at most so many. -/
def runRecords (m : Machine) (rules : List (Rule × Nat)) : Nat → Run Unit
  | 0 => return
  | records + 1 => do
    match ← nextRecord? m.job ((← operandCount) + 3) with
    | none => return
    | some record =>
      setRecord record
      tryCatch (runRules m rules) fun stop =>
        match stop with
        | .next => return
        | .nextFile => modify fun s => { s with pending := [], reading := false }
        | other => throw other
      runRecords m rules records

/-- Runs the actions of rules that are meant for no record. -/
def runActions (m : Machine) (rules : List Rule) : Run Unit :=
  rules.forM fun rule =>
    match rule.action with
    | some action => m.perform action
    | none => return

/-- Whether a rule is meant to be run before the first record. -/
def isStart : Condition → Bool
  | .start => true
  | _ => false

/-- Whether a rule is meant to be run after the last record. -/
def isFinish : Condition → Bool
  | .finish => true
  | _ => false

/-- How many records a program may read. -/
def recordLimit : Nat := 10000000

/-- Runs a program. -/
def runProgram (m : Machine) (script : Script) : Run Unit := do
  let starts := script.rules.filter fun r => isStart r.condition
  let finishes := script.rules.filter fun r => isFinish r.condition
  let rules := (script.rules.filter fun r => !isStart r.condition && !isFinish r.condition).zipIdx
  let begun ← tryCatch (do runActions m starts; return true) fun stop =>
    match stop with
    | .exit => return false
    | other => throw other
  if begun && !(rules.isEmpty && finishes.isEmpty) then
    tryCatch (runRecords m rules recordLimit) fun stop =>
      match stop with
      | .exit => return
      | other => throw other
  if begun || !finishes.isEmpty then
    tryCatch (runActions m finishes) fun stop =>
      match stop with
      | .exit => return
      | other => throw other

/-! ## The command -/

/-- The variables of the language with their first values. -/
def firstGlobals (j : Job) (operands : List Bytes) : Std.HashMap String Value :=
  Std.HashMap.ofList [("FS", .text [' ']), ("OFS", .text [' ']), ("ORS", .text ['\n']), ("RS", .text ['\n']),
    ("SUBSEP", .text ['\x1c']), ("CONVFMT", .text "%.6g".toList), ("OFMT", .text "%.6g".toList),
    ("NR", .number 0), ("NF", .number 0), ("FNR", .number 0), ("RSTART", .number 0), ("RLENGTH", .number (-1)),
    ("FILENAME", .unset), ("ARGC", .number (Float.ofNat (operands.length + 1))),
    ("ENVIRON", .text (digitsOf j.vars.length))]

/-- The state at the start. -/
def firstState (j : Job) (script : Script) (operands : List Bytes) : State :=
  let argv : Table := ((j.name :: operands).zipIdx).foldl
    (fun t (arg, i) => t.insert (.number (i : Nat)) (Value.ofInput arg)) {}
  let environment : Table := j.vars.foldl
    (fun t (name, value) => t.insert (.text (String.ofList name)) (Value.ofInput value)) {}
  { functions := script.functions
    globals := firstGlobals j operands
    globalArrays := Std.HashMap.ofList [("ARGV", 0), ("ENVIRON", 1)]
    arrays := Std.HashMap.ofList [(0, argv), (1, environment)]
    nextArray := 2
    chance := chanceFrom 1 }

/-- What the options say. -/
structure Settings where
  /-- The files that hold the program. -/
  files : List Bytes := []
  /-- The variables that are set first. -/
  assignments : List (String × Bytes) := []
  deriving Inhabited

/-- What the options say and the arguments after them, or what is wrong with them, in at most so many
steps. -/
def readSettings : Nat → Settings → List Bytes → Except String (Settings × List Bytes)
  | 0, s, args => .ok (s, args)
  | _, s, [] => .ok (s, [])
  | steps + 1, s, arg :: rest =>
    match arg with
    | ['-'] => .ok (s, arg :: rest)
    | ['-', '-'] => .ok (s, rest)
    | '-' :: letter :: glued =>
      if !(['F', 'v', 'f', 'W'].contains letter) then .error s!"not an option: {textOf arg}"
      else
        match glued, rest with
        | [], [] => .error s!"option {textOf arg} lacks argument"
        | [], value :: rest => go steps s letter value rest
        | _, rest => go steps s letter glued rest
    | _ => .ok (s, arg :: rest)
where
  /-- Goes on with the value of an option. -/
  go (steps : Nat) (s : Settings) (letter : Char) (value : Bytes) (rest : List Bytes) :
      Except String (Settings × List Bytes) :=
    match letter with
    | 'F' =>
      let separator := (unescape textEscapes value).1
      readSettings steps { s with assignments := s.assignments ++ [("FS", separator)] } rest
    | 'v' =>
      match assignment? value with
      | some found => readSettings steps { s with assignments := s.assignments ++ [found] } rest
      | none => .error s!"improper assignment: -v {textOf value}"
    | 'f' => readSettings steps { s with files := s.files ++ [value] } rest
    | _ => readSettings steps s rest

/-- Runs a program that was read. -/
def runScriptOf (system : Bytes → Running ExitStatus) (j : Job) (settings : Settings) (script : Script)
    (operands : List Bytes) : Running ExitStatus := do
  let m := machine system j depthLimit
  let whole : Run Unit := do
    for (name, value) in settings.assignments do
      setGlobal name (if name = "FS" then .text value else Value.ofInput value)
    runProgram m script
  let (result, state) ← (whole.run).run (firstState j script operands)
  let ((_, state)) ← ((closeAll m).run).run state
  match result with
  | .error (.fault message) => j.fail 2 message
  | _ => return .code state.status

/-- Runs a program for records; `system` runs scripts of the system. -/
def awk (system : Job → Bytes → Running ExitStatus) : Program := fun j => do
  match readSettings (j.args.length + 1) {} j.args with
  | .error fault => j.fail 2 fault
  | .ok (settings, operands) =>
    let mut pieces : List Bytes := []
    for file in settings.files do
      match ← (do
        if file = ['-'] then return .ok (← Running.takeInput)
        else Running.readFile j.cwd file) with
      | .ok bytes => pieces := pieces ++ [bytes]
      | .error e => return ← j.fail 2 s!"cannot open {textOf file} ({e.words})"
    match settings.files, operands with
    | [], [] => return success
    | files, _ =>
      let text := if files.isEmpty then operands.headD [] else joinWith ['\n'] pieces
      let operands := if files.isEmpty then operands.drop 1 else operands
      let place := match files with
        | [] => ""
        | file :: _ => s!"{textOf file}: "
      match Script.read text with
      | .error complaints =>
        for complaint in complaints do
          j.complain (place ++ complaint)
        return .code 2
      | .ok script =>
        if script.rules.isEmpty && script.functions.isEmpty then return success
        else runScriptOf (system j) j settings script operands

end FormatChain.Tools.Awk
