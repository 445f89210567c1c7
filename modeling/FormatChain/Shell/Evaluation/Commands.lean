import FormatChain.Regex.Reading
import FormatChain.Shell.Evaluation.Simple

/-!
# Commands made of others

Commands are made of others by conditions, loops and groups. Conditions in brackets have an
evaluation of their own.

* `fitsRegex` : whether a text fits a regular expression, whose groups are kept.
* `holdsUnary`, `holdsBinary` : conditions on words.
* `judge` : whether a condition holds.
* `runLoop`, `runEach`, `runCounted`, `runMenu` : loops.
* `casesFor` : choices by patterns.
* `runInside`, `runApart` : shells inside the shell.
* `runCommand`, `Engine.upTo` : any command.
-/

/-!
## Conditions in brackets

The words of a condition in double brackets are replaced when they are looked at.  A word on the right is a
pattern, a regular expression or a sum where its operator wants one.
-/

namespace FormatChain.Shell

open FormatChain.Process

/-- Whether small and capital letters are the same in conditions and cases. -/
def foldsCase : Acting Bool := return (← shell).options.contains "nocasematch"

/-- Whether a text fits a regular expression with groups, which are kept. One that cannot be read ends the
condition with another number. -/
def fitsRegex (text : Bytes) (marks : List Mark) : Acting Bool := do
  let pattern := marks.flatMap fun mark =>
    if mark.quoted && !isNameByte mark.byte then ['\\', mark.byte] else [mark.byte]
  let rules : RegexRules := { extended := true, fold := ← foldsCase, strictRepeats := true, looseClosing := true }
  match Pattern.read rules pattern with
  | .error _ =>
    setStatus 2
    return false
  | .ok p =>
    let keep (texts : List Bytes) : Acting Unit := storeVariable "BASH_REMATCH".toList (.ofList texts)
    match p.find? true text 0 with
    | none =>
      keep []
      return false
    | some found =>
      let whole := (text.drop found.start).take (found.stop - found.start)
      let groups := (List.range p.groups).map fun i =>
        match found.groups.find? fun group => group.1 = i + 1 with
        | some (_, start, stop) => (text.drop start).take (stop - start)
        | none => []
      keep (whole :: groups)
      return true

/-- Shows a condition on words before it is looked at. -/
def showClause (e : Engine) (words : List Bytes) : Acting Unit := do
  if ← isOn 'x' then
    let start ← traceStart e
    let _ ← put 2 (start ++ joinWith [' '] (bytesOf "[[" :: words ++ [bytesOf "]]"]) ++ ['\n'])

/-- Where conditions are looked at in the rich language. -/
def Scene.site (scene : Scene) : Tools.Condition.Site :=
  { disk := scene.world.disk, cwd := scene.shell.cwd, doubleEquals := true, others := scene.claims }

/-- Whether a condition on a word holds. -/
def holdsUnary (e : Engine) (op : Bytes) (word : Word) : Acting Bool := do
  let text ← textOfWord (writerOf e) word
  showClause e [op, wordTraced text]
  return match (← get).site.unary op text with
    | .ok holds => holds
    | .error _ => false

/-- Whether the numbers that texts are as sums are as a test wants it. They are not if one is none. -/
def holdsForSums (test : Int → Int → Bool) (left right : Bytes) : Acting Bool := do
  let found ← attempt <| inNameOf "[[".toList do
    let a ← sumValue sumDepth left
    let b ← sumValue sumDepth right
    return test a b
  match found with
  | .ok holds => return holds
  | .error .fault => return false
  | .error flow => throw flow

/-- Whether a condition between two words holds. -/
def holdsBinary (e : Engine) (left : Word) (op : Bytes) (right : Word) : Acting Bool := do
  let text ← textOfWord (writerOf e) left
  let marks ← marksOfWord (writerOf e) right
  let other := bytesOfMarks marks
  showClause e [wordTraced text, op, other]
  match textOf op with
  | "=~" => fitsRegex text marks
  | "-eq" => holdsForSums (fun a b => a == b) text other
  | "-ne" => holdsForSums (fun a b => a != b) text other
  | "-lt" => holdsForSums (fun a b => decide (a < b)) text other
  | "-le" => holdsForSums (fun a b => decide (a ≤ b)) text other
  | "-gt" => holdsForSums (fun a b => decide (b < a)) text other
  | "-ge" => holdsForSums (fun a b => decide (b ≤ a)) text other
  | "=" | "==" | "!=" =>
    let pattern := Wildcard.read { caret := true, groups := true, fold := ← foldsCase } marks
    return Wildcard.fits pattern text == (op != "!=".toList)
  | _ =>
    return match (← get).site.binary text op other with
      | .ok holds => holds
      | .error _ => false

/-- Whether a condition holds. -/
def judge (e : Engine) : Clause → Acting Bool
  | .unary op word => holdsUnary e op word
  | .binary left op right => holdsBinary e left op right
  | .not a => do return !(← judge e a)
  | .and a b => do if ← judge e a then judge e b else return false
  | .or a b => do if ← judge e a then return true else judge e b

/-- The number with which a condition ends. -/
def runClause (e : Engine) (clause : Clause) : Acting Nat := do
  let before := (← shell).status
  setStatus 0
  let holds ← judge e clause
  let status := (← shell).status
  setStatus before
  return if holds then 0 else if status = 2 then 2 else 1

end FormatChain.Shell

/-!
## Commands made of others

Loops, choices, functions, shells inside the shell, and commands that nobody waits for.
-/

namespace FormatChain.Shell

open FormatChain.Process

/-! ### Loops -/

/-- How often a loop is run. -/
def loopLimit : Nat := 300000

/-- What becomes of a loop after a command in it. -/
inductive LoopStep where
  /-- It goes on. -/
  | goOn
  /-- It ends. -/
  | stop

/-- Does something in a loop, which may end it. -/
def inLoop (act : Acting Nat) (status : Nat) : Acting (LoopStep × Nat) := do
  match ← attempt act with
  | .ok n => return (.goOn, n)
  | .error (.breakOut n) => if n ≤ 1 then return (.stop, status) else throw (.breakOut (n - 1))
  | .error (.goOn n) => if n ≤ 1 then return (.goOn, status) else throw (.goOn (n - 1))
  | .error flow => throw flow

/-- Runs a command in a loop again and again, at most so often. -/
def runLoop (e : Engine) (manner : Manner) (untilHolds : Bool) (condition body : Command) :
    Nat → Nat → Acting Nat
  | 0, _ => throw .stuck
  | times + 1, status => do
    let looked ← attempt (e.run { tested := true } condition)
    match looked with
    | .error (.breakOut n) => if n ≤ 1 then return 0 else throw (.breakOut (n - 1))
    | .error (.goOn n) =>
      if n ≤ 1 then runLoop e manner untilHolds condition body times 0 else throw (.goOn (n - 1))
    | .error flow => throw flow
    | .ok found =>
      if (found = 0) = untilHolds then return status
      match ← inLoop (e.run { tested := manner.tested } body) 0 with
      | (.goOn, n) => runLoop e manner untilHolds condition body times n
      | (.stop, n) => return n

/-- Gives the name of a loop its next value; the rich language ends the loop if that must not be done. -/
def giveLoopValue (name value : Bytes) : Acting Bool := do
  match (← shell).dialect with
  | .common =>
    setValue name value
    return true
  | .rich =>
    if !isName name then
      complain ('\x60' :: name ++ bytesOf "': not a valid identifier")
      return false
    match ← attempt (setValue name value) with
    | .ok _ => return true
    | .error .fault => return false
    | .error flow => throw flow

/-- Runs a command for each of some fields. -/
def runEach (e : Engine) (manner : Manner) (line : Nat) (name : Bytes) (body : Command) :
    Nat → List Bytes → Acting Nat
  | status, [] => return status
  | _, field :: rest => do
    if (← shell).dialect = .rich then
      changeShell fun s => { s with line }
      runTrap e 65
    if !(← giveLoopValue name field) then return 1
    match ← inLoop (e.run { tested := manner.tested } body) 0 with
    | (.goOn, n) => runEach e manner line name body n rest
    | (.stop, n) => return n

/-- Shows a sum before its value is found. -/
def showSum (e : Engine) (text : Bytes) : Acting Unit := do
  if ← isOn 'x' then
    let start ← traceStart e
    let _ ← put 2 (start ++ bytesOf "(( " ++ text ++ bytesOf " ))\n")

/-- The value of a sum in a command, that of nothing being given; none if something is wrong with it. -/
def sumIn (e : Engine) (sum : Word) (empty : Int) : Acting (Option Int) := do
  let text := bytesOfChunks (← chunksOf (writerOf e) wordDepth .quoted sum)
  if text.all isSpaceByte then return some empty
  showSum e text
  match ← attempt (inNameOf "((".toList (sumValue sumDepth text)) with
  | .ok n => return some n
  | .error .fault => return none
  | .error flow => throw flow

/-- Runs a command in a loop with sums, at most so often. -/
def runCounted (e : Engine) (manner : Manner) (line : Nat) (test next : Word) (body : Command) :
    Nat → Nat → Acting Nat
  | 0, _ => throw .stuck
  | times + 1, status => do
    changeShell fun s => { s with line }
    match ← sumIn e test 1 with
    | none => return 1
    | some n =>
      if n = 0 then return status
      match ← inLoop (e.run { tested := manner.tested } body) 0 with
      | (.goOn, n) =>
        match ← sumIn e next 0 with
        | none => return 1
        | some _ => runCounted e manner line test next body times n
      | (.stop, n) => return n

/-- Does something in one more loop. -/
def withLoop (act : Acting Nat) : Acting Nat := do
  changeShell fun s => { s with loops := s.loops + 1 }
  let result ← attempt act
  changeShell fun s => { s with loops := s.loops - 1 }
  match result with
  | .ok status => return status
  | .error flow => throw flow

/-! ### Menus -/

/-- Blanks from one column to another: tabs where they fit, and spaces. -/
def blanksTo : Nat → Nat → Nat → Bytes
  | 0, _, _ => []
  | steps + 1, column, stop =>
    if stop ≤ column then []
    else if column / 8 < stop / 8 then '\t' :: blanksTo steps (column + 8 - column % 8) stop
    else ' ' :: blanksTo steps (column + 1) stop

/-- The words of a menu with their numbers, in columns of the same width. -/
def menuText (fields : List Bytes) : Bytes :=
  let count := fields.length
  let digits := (digitsOf count).length
  let width := (fields.foldl (fun most field => max most field.length) 0) + digits + 4
  let columns := max 1 (80 / width)
  let rows := (count + columns - 1) / columns
  let rows := if rows = 1 then count else rows
  let cells := fields.zipIdx
  let rowText (row : Nat) : Bytes :=
    let mine := cells.filter fun cell => cell.2 % rows = row
    mine.flatMap fun cell =>
      let isFirst := cell.2 < rows
      let size := if isFirst then (digitsOf rows).length else digits
      let shown := padStart size (digitsOf (cell.2 + 1)) ++ bytesOf ") " ++ cell.1
      if cell.2 + rows < count then shown ++ blanksTo (width + 1) shown.length width else shown
  (List.range rows).flatMap fun row => rowText row ++ ['\n']

/-- What was chosen from a menu, in at most so many steps; none if nothing more comes in. -/
def chooseFromMenu (fields : List Bytes) : Nat → Bool → Acting (Option Bytes)
  | 0, _ => throw .stuck
  | steps + 1, showing => do
    if showing then
      let _ ← put 2 (menuText fields)
    let prompt := ((← variableOf "PS3".toList).value).getD "#? ".toList
    let _ ← put 2 prompt
    let status ← readLine []
    if status ≠ 0 then
      let _ ← put 1 ['\n']
      return none
    let reply := ((← variableOf "REPLY".toList).value).getD []
    if reply.isEmpty then chooseFromMenu fields steps true
    else
      match intOf? reply with
      | some n => return some (if n < 1 then [] else (fields[n.toNat - 1]?).getD [])
      | none => return some []

/-- Runs a command for each word that is chosen from a menu, at most so often. -/
def runMenu (e : Engine) (manner : Manner) (name : Bytes) (fields : List Bytes) (body : Command) :
    Nat → Bool → Nat → Acting Nat
  | 0, _, _ => throw .stuck
  | times + 1, showing, _ => do
    match ← chooseFromMenu fields loopLimit showing with
    | none => return 1
    | some field =>
      if !(← giveLoopValue name field) then return 1
      match ← inLoop (e.run { tested := manner.tested } body) 0 with
      | (.goOn, n) =>
        let reply ← variableOf "REPLY".toList
        runMenu e manner name fields body times (reply.value = some []) n
      | (.stop, n) => return n

/-! ### Choices by patterns -/

/-- Whether a text fits one of the patterns that words are. -/
def fitsOneOf (e : Engine) (text : Bytes) : List Word → Acting Bool
  | [] => return false
  | pattern :: rest => do
    let marks ← marksOfWord (writerOf e) pattern
    let rules := { (← wildcardRules) with fold := ← foldsCase }
    if Wildcard.fits (Wildcard.read rules marks) text then return true else fitsOneOf e text rest

/-- Runs the commands of the cases that a text fits; the first one is run anyway if that is wanted. -/
def runCases (e : Engine) (manner : Manner) (text : Bytes) :
    Bool → Nat → List (List Word × Command × CaseEnd) → Acting Nat
  | _, status, [] => return status
  | anyway, status, (patterns, command, ending) :: rest => do
    let fits ← if anyway then pure true else fitsOneOf e text patterns
    if !fits then runCases e manner text false status rest
    else
      let run (manner : Manner) : Acting Nat :=
        match command with
        | .nothing => return 0
        | _ => e.run manner command
      match ending with
      | .stop => run manner
      | .through => runCases e manner text true (← run { tested := manner.tested }) rest
      | .onward => runCases e manner text false (← run { tested := manner.tested }) rest

/-! ### Shells inside the shell -/

/-- Runs a command in a shell inside the shell. -/
def runInside (e : Engine) (manner : Manner) (line : Nat) (command : Command)
    (redirects : List Redirect) : Acting Nat := do
  changeShell fun s => { s with line }
  let status ← inside (runScript e {}) do
    let leads ← redirects.mapM (leadOf (writerOf e))
    match ← leadAll leads with
    | some n => return n
    | none => e.run { tested := manner.tested } command
  match status, manner.final && (← shell).traps.isEmpty with
  | .signal n, true => throw (.replaced (.signal n))
  | _, _ => tellEnding status

/-- Whether a command writes nothing where the shell writes, as far as it says so itself. -/
def isSilent : Command → Bool
  | .simple _ _ _ redirects _ => 2 ≤ redirects.length
  | .redirected _ _ redirects => 2 ≤ redirects.length
  | .subshell _ _ redirects => 2 ≤ redirects.length
  | _ => false

/-- Leaves a command to itself. It is run at once, but the time that it takes does not pass: what it writes
comes between what others write when it is written. Starting it takes a moment. -/
def runApart (e : Engine) (line : Nat) (command : Command) : Acting Nat := do
  changeShell fun s => { s with line }
  let before := (← get).world
  let process := processNumber + (← shell).apartCount + 1
  modify fun scene => { scene with world := { scene.world with slept := before.slept + 1, writer := process } }
  let (status, signals) ← enclosed (runScript e {}) do
    changeShell fun s => { s with apart := [] }
    lead 0 (← addOpened { target := .nowhere })
    e.run {} command
  let ends := (← get).world.slept
  modify fun scene => { scene with world := { scene.world with slept := before.slept, writer := before.writer } }
  changeShell fun s =>
    let job : Apart := { process, status, ends, writes := !isSilent command }
    { s with
      apart := job :: s.apart, apartCount := s.apartCount + 1
      coming := s.coming ++ signals.map fun signal => (ends, signal) }
  return 0

/-! ### Any command -/

/-- The commands of a sequence, before others. -/
def commandsOf : Command → List Command → List Command
  | .sequence a b, rest => commandsOf a (commandsOf b rest)
  | .nothing, rest => rest
  | command, rest => command :: rest

/-- Runs commands one after the other. -/
def runAll (e : Engine) (manner : Manner) : Nat → List Command → Acting Nat
  | status, [] => return status
  | _, [last] => e.run manner last
  | _, command :: rest => do
    let n ← e.run { tested := manner.tested } command
    runAll e manner n rest

/-- Gives a command a name. -/
def define (line : Nat) (name : Bytes) (body : Command) : Acting Unit := changeShell fun s =>
  let source := match s.calls.head? with
    | some call => call.source
    | none => if s.origin = "-c".toList then "environment".toList
      else if s.settings.contains 's' then "main".toList else s.name
  { s with functions := setEntry name { line, source, body } s.functions }

/-- What a command gives, and whether a wrong result of it may end the shell. -/
def resultOf (e : Engine) (manner : Manner) (command : Command) : Acting (Nat × Bool) := do
  let writer := writerOf e
  let starts (line : Nat) : Acting Unit := do
    changeShell fun s => { s with line }
    if (← shell).dialect = .rich then runTrap e 65
  match command with
  | .nothing => return (0, false)
  | .simple line assignments words redirects written =>
    if (← shell).dialect = .rich then
      changeShell fun s => { s with current := if s.trapping then s.current else written }
      starts line
    let n ← runSimple e manner line assignments words redirects
    changeShell fun s => { s with stages := [n] }
    return (n, true)
  | .piped stages => return (← runPipeline e manner stages, true)
  | .not command =>
    let n ← e.run { tested := true } command
    return (if n = 0 then 1 else 0, false)
  | .and first second =>
    let n ← e.run { tested := true } first
    if n = 0 then return (← e.run manner second, false) else return (n, false)
  | .or first second =>
    let n ← e.run { tested := true } first
    if n = 0 then return (n, false) else return (← e.run manner second, false)
  | .sequence first second =>
    return (← runAll e manner 0 (commandsOf first (commandsOf second [])), false)
  | .background line command => return (← runApart e line command, false)
  | .choice condition yes no =>
    let n ← e.run { tested := true } condition
    if n = 0 then return (← e.run manner yes, false)
    else
      match no with
      | .nothing => return (0, false)
      | _ => return (← e.run manner no, false)
  | .loop untilHolds condition body =>
    return (← withLoop (runLoop e manner untilHolds condition body loopLimit 0), false)
  | .each line name words body =>
    changeShell fun s => { s with line }
    let fields ← fieldsOf writer words
    return (← withLoop (runEach e manner line name body 0 fields), false)
  | .counted line first test next body =>
    starts line
    match ← sumIn e first 0 with
    | none => return (1, false)
    | some _ => return (← withLoop (runCounted e manner line test next body loopLimit 0), false)
  | .select line word cases =>
    starts line
    let text ← textOfWord writer word
    return (← runCases e manner text false 0 cases, false)
  | .menu line name words body =>
    starts line
    let fields ← fieldsOf writer words
    if fields.isEmpty then return (0, false)
    return (← withLoop (runMenu e manner name fields body loopLimit true 0), false)
  | .define line name body =>
    define line name body
    return (0, false)
  | .redirected line command redirects =>
    changeShell fun s => { s with line }
    let leads ← redirects.mapM (leadOf writer)
    let n ← keepingStreams do
      match ← leadAll leads with
      | some n => return n
      | none => e.run { tested := manner.tested } command
    return (n, false)
  | .subshell line command redirects =>
    let n ← runInside e manner line command redirects
    changeShell fun s => { s with stages := [n] }
    return (n, true)
  | .condition line clause =>
    starts line
    let n ← runClause e clause
    changeShell fun s => { s with stages := [n] }
    return (n, true)
  | .computed line sum =>
    starts line
    let n := match ← sumIn e sum 0 with
      | some value => if value = 0 then 1 else 0
      | none => 1
    changeShell fun s => { s with stages := [n] }
    return (n, true)

/-- Runs a command. -/
def runCommand (e : Engine) (manner : Manner) (command : Command) : Acting Nat := do
  let s ← shell
  if s.settings.contains 'n' then return s.status
  runPending e
  let (status, checked) ← resultOf e manner command
  if s.dialect = .rich && s.channels.length < (← shell).channels.length then
    closeChannels e s.channels
  setStatus status
  runPending e
  if checked && !manner.tested && status ≠ 0 then
    if s.dialect = .rich then runTrap e 66
    if ← isOn 'e' then throw .leave
  return status

/-- An engine for commands that are nested up to so deep. -/
def Engine.upTo (start : Starter) : Nat → Engine
  | 0 => ⟨start, fun _ _ => fail s!"Maximum function recursion depth ({callLimit .common}) reached"⟩
  | depth + 1 => ⟨start, fun manner command => runCommand (upTo start depth) manner command⟩

end FormatChain.Shell
