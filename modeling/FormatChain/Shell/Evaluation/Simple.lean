import FormatChain.Shell.Evaluation.Programs

/-!
# Simple commands and pipelines

A simple command gives names values, and runs what its first word stands for.

* `keyedElement?` : an element of an array with its key.
* `giveElements` : the elements of an array.
* `assign` : giving a name the value that a word tells.
* `withValues` : doing something with values that names have only for it.
* `showCommand` : showing a command before it is run.
* `runFields`, `runSimple` : simple commands.
* `runPipeline` : pipelines.
-/

/-!
## Giving names values

The words before a command, and those after a command that declares names, give names values.
-/

namespace FormatChain.Shell

open FormatChain.Process

/-- The key and the value of an element that is written with its key in brackets. Whether the value is
added to the one before is known, too. -/
def keyedElement? (word : Word) : Option (Word × Bool × Word) :=
  match word with
  | .text ('[' :: more) :: rest =>
    match splitIndex [] (.text more :: rest) with
    | some (index, .text value :: others) =>
      (valueAfter value others).map fun (added, value) => (index, added, value)
    | _ => none
  | _ => none

/-- An element of an array whose words are replaced: its key if it has one, whether its value is added to
the one before, and its value. -/
structure Element where
  /-- The key. -/
  key : Option Bytes := none
  /-- Whether the value is added to the one before. -/
  added : Bool := false
  /-- The value. -/
  value : Bytes

/-- The elements of an array that words stand for. -/
def elementsOf (writer : Writer) (words : List Word) : Acting (List Element) := do
  let found ← words.mapM fun word => do
    match keyedElement? word with
    | some (index, added, value) =>
      let key ← textOfWord writer index
      let value ← textOfWord writer value
      return [({ key := some key, added, value } : Element)]
    | none => return (← fieldsOf writer [word]).map fun value => { value }
  return found.flatten

/-- Gives elements of an array with keys that are texts their values: those without keys are keys and
values in turn. -/
def giveKeyed (name : Bytes) : List Element → Acting Unit
  | [] => return ()
  | ⟨some key, added, value⟩ :: rest => do
    giveValue name (some key) added value
    giveKeyed name rest
  | [⟨none, _, key⟩] => giveValue name (some key) false []
  | ⟨none, _, key⟩ :: other :: rest => do
    giveValue name (some key) false other.value
    giveKeyed name rest

/-- Gives elements of an array their values, from a place on. -/
def giveElements (name : Bytes) : Nat → List Element → Acting Unit
  | _, [] => return ()
  | next, element :: rest => do
    let key ← match element.key with
      | some key => keyOfIndex name key
      | none => pure (digitsOf next)
    giveValue name (some key) element.added element.value
    giveElements name (((natOf? key).getD next) + 1) rest

/-- Whether a byte has a meaning that makes commands that are shown put it into quotes. -/
def isMetaByte (c : Char) : Bool :=
  [' ', '\t', '\n', '\'', '"', '\\', '|', '&', ';', '(', ')', '<', '>', '!', '\x7b', '\x7d', '*', '[', '?', ']',
    '^', '$', '\x60'].contains c

/-- Whether a word needs quotes where commands are shown; the byte before it is given. -/
def needsQuotes : Option Char → Bytes → Bool
  | _, [] => false
  | before, c :: rest =>
    isMetaByte c || (c = '~' && (before.isNone || before = some '=' || before = some ':'))
      || (c = '#' && before.isNone) || needsQuotes (some c) rest

/-- A value as it is shown where commands are. -/
def valueTraced (bytes : Bytes) : Bytes :=
  if needsQuotes none bytes then singleQuoted bytes
  else if needsDollar bytes then dollarQuoted bytes
  else bytes

/-- A word as it is shown where commands are. -/
def wordTraced (bytes : Bytes) : Bytes := if bytes.isEmpty then ['\'', '\''] else valueTraced bytes

/-- Gives a name the value of an assignment. Tells what it is, as it may be shown. -/
def assign (writer : Writer) (a : Assignment) : Acting Bytes := do
  match a.value with
  | [.elements words] =>
    let name ← meantName referenceDepth a.name
    refuseConstant name
    let v ← storedVariable name
    let listed := v.listed
    let start := match a.added, listed.getLast? with
      | true, some (key, _) => ((natOf? key).getD 0) + 1
      | _, _ => 0
    let elements ← elementsOf writer words
    let before := if a.added then v.elements.getD listed else []
    storeVariable name { v with value := none, elements := some before, given := true }
    if v.keyed then giveKeyed name elements else giveElements name start elements
    let shown := elements.map fun element => singleQuoted element.value
    return a.name ++ bytesOf (if a.added then "+=(" else "=(") ++ joinWith [' '] shown ++ [')']
  | word =>
    let bytes ← textOfWord writer (← valueWithHomes word)
    let index ← match a.index with
      | some index => do pure (some (← textOfWord writer index))
      | none => pure none
    giveValue a.name index a.added bytes
    match (← shell).dialect with
    | .common => return a.name ++ '=' :: bytes
    | .rich =>
      let place := match index with
        | some index => '[' :: index ++ [']']
        | none => []
      return a.name ++ place ++ bytesOf (if a.added then "+=" else "=") ++ valueTraced bytes

/-- The names that assignments give values, as they were before. -/
def namesBefore (assignments : List Assignment) : Acting (List (Bytes × Option Variable)) := do
  let vars := (← shell).vars
  return assignments.map fun a => (a.name, entryOf? a.name vars)

/-- Gives a name a value that commands get, too. In the rich language that is left if it must not be
done. -/
def assignExported (writer : Writer) (a : Assignment) : Acting Bytes := do
  let give : Acting Bytes := do
    let text ← assign writer a
    storeVariable a.name { (← storedVariable a.name) with exported := true }
    return text
  match (← shell).dialect with
  | .common => give
  | .rich =>
    if (← variableOf a.name).constant then
      complain (a.name ++ bytesOf ": readonly variable")
      return []
    else give

/-- Does something with values that names have only for it. -/
def withValues (writer : Writer) (assignments : List Assignment) (lasting : Bool)
    (act : List Bytes → Acting Nat) : Acting Nat := do
  if assignments.isEmpty then act []
  else if lasting then act (← assignments.mapM (assign writer))
  else
    let before ← namesBefore assignments
    let shown ← assignments.mapM (assignExported writer)
    let result ← attempt (act (shown.filter (!·.isEmpty)))
    restoreNames before
    match result with
    | .ok status => return status
    | .error flow => throw flow

end FormatChain.Shell

/-!
## Simple commands and pipelines

The words of a simple command are replaced, its streams are led, and then its name tells what is run: a
function, a command of the shell, or a program.  The stages of a pipeline are run one after the other,
each in a shell of its own.
-/

namespace FormatChain.Shell

open FormatChain.Process

/-! ### Words of a command -/

/-- The fields of the first words that have some, and the words after them. -/
def firstFields (writer : Writer) : List Word → Acting (List Bytes × List Word)
  | [] => return ([], [])
  | word :: rest => do
    let fields ← fieldsOf writer [word]
    if fields.isEmpty then firstFields writer rest else return (fields, rest)

/-- The field of a word that gives a value, as an argument. -/
def assignmentField (writer : Writer) (a : Assignment) : Acting Bytes := do
  let bytes ← textOfWord writer (← valueWithHomes a.value)
  let index ← match a.index with
    | some index => do pure ('[' :: (← textOfWord writer index) ++ [']'])
    | none => pure []
  return a.name ++ index ++ bytesOf (if a.added then "+=" else "=") ++ bytes

/-- What stands before a command that is shown. -/
def traceStart (e : Engine) : Acting Bytes := do
  let s ← shell
  let start := ((← variableOf "PS4".toList).value).getD ['+', ' ']
  let word := match wordOfText s.dialect start with
    | .ok word => word
    | .error _ => [.literal start]
  changeShell fun s => { s with settings := s.settings.filter (· ≠ 'x') }
  let found ← attempt (do return bytesOfChunks (← chunksOf (writerOf e) wordDepth .quoted word))
  changeShell fun after => { after with settings := s.settings, status := s.status }
  let bytes := match found with
    | .ok bytes => bytes
    | .error _ => start
  match s.dialect with
  | .common => return bytes
  | .rich => return List.replicate s.traceDepth (bytes.headD '+') ++ bytes

/-- Shows a command before it is run. -/
def showCommand (e : Engine) (assignments words : List Bytes) : Acting Unit := do
  if ← isOn 'x' then
    let start ← traceStart e
    match (← shell).dialect with
    | .common =>
      let _ ← put 2 (start ++ joinWith [' '] (assignments ++ words) ++ ['\n'])
    | .rich =>
      assignments.forM fun text => do
        let _ ← put 2 (start ++ text ++ ['\n'])
      if !words.isEmpty then
        let _ ← put 2 (start ++ joinWith [' '] (words.map wordTraced) ++ ['\n'])

/-- Leads streams for a command; the number with which that is refused, if it is. -/
def leadAll (leads : List Lead) : Acting (Option Nat) := do
  match ← attempt (leads.forM apply) with
  | .ok _ => return none
  | .error .fault => return some (← shell).status
  | .error flow => throw flow

/-! ### What a name runs -/

/-- Lets the program of words take the place of the shell, maybe under another name. -/
def becomeProgram (e : Engine) (called : Option Bytes) (words : List Bytes) : Acting Nat := do
  let name := words.headD []
  let leave (status : Nat) : Acting Nat := do
    setStatus status
    if (← shell).options.contains "execfail" then return status else throw .leave
  let words := called.getD name :: words.drop 1
  match ← programPath? name with
  | none =>
    complain (name ++ bytesOf ": not found")
    leave 127
  | some path =>
    let result ← match ← startProgram e path words with
      | .error .noProgram => startProgram e scriptShell (scriptShell :: path :: words.drop 1)
      | result => pure result
    match result with
    | .ok status => throw (.replaced status)
    | .error fault => leave (← refuseProgram name fault)

/-- Runs the commands of a text inside a script. -/
def runInner (e : Engine) (manner : Manner) (text : Bytes) : Acting Nat := do
  let depth := (← shell).traceDepth
  changeShell fun s => { s with traceDepth := depth + 1 }
  let result ← attempt (runScript e manner text)
  changeShell fun s => { s with traceDepth := depth }
  match result with
  | .ok status => return status
  | .error flow => throw flow

/-- The hands of the commands of the shell. -/
def handsOf (e : Engine) (manner : Manner) (runWords : Bool → List Bytes → Acting Nat) : Hands :=
  { script := runInner e { tested := manner.tested }
    words := runWords
    exec := becomeProgram e }

/-- Runs words that are no function: a command of the shell or a program, calling each other up to
so deep. -/
def runWords (e : Engine) (manner : Manner) : Nat → Bool → List Bytes → Acting Nat
  | 0, _, _ => return 1
  | depth + 1, usual, words => do
    match words with
    | [] => return 0
    | name :: args =>
      let dialect := (← shell).dialect
      let hands := handsOf e manner (runWords e manner depth)
      match ownCommand? hands dialect (textOf name) with
      | some act => runOwn false name (act args)
      | none => runProgram e manner.final usual words

/-- Runs fields: a function, a command of the shell or a program. -/
def runFields (e : Engine) (manner : Manner) (fields : List Bytes) : Acting Nat := do
  let s ← shell
  let name := fields.headD []
  let args := fields.drop 1
  let strict := isStrict s.dialect name
  let hands := handsOf e manner (fun usual words => do
    let before := (← shell).command
    changeShell fun s => { s with command := none }
    let result ← attempt (runWords e manner (words.length + 2) usual words)
    changeShell fun s => { s with command := before }
    match result with
    | .ok status => return status
    | .error flow => throw flow)
  match entryOf? name s.functions, ownCommand? hands s.dialect (textOf name) with
  | some f, own =>
    match strict, own with
    | true, some act => runOwn true name (act args)
    | _, _ => callFunction e manner name f args
  | none, some act => runOwn strict name (act args)
  | none, none => runProgram e manner.final false fields

/-! ### Simple commands -/

/-- The words of a simple command that are replaced. -/
structure Arguments where
  /-- The fields. -/
  fields : List Bytes
  /-- The arrays that get elements. -/
  arrays : List Assignment

/-- What words stand for as arguments. -/
def argumentsOf (writer : Writer) (words : List Word) : Acting Arguments := do
  let dialect := (← shell).dialect
  let (first, rest) ← firstFields writer words
  let name := textOf (first.headD [])
  let declaring := match dialect with
    | .common => ["export", "readonly", "local"].contains name
    | .rich => declaringCommands.contains name
  if !declaring then return { fields := first ++ (← fieldsOf writer rest), arrays := [] }
  else
    let others ← rest.mapM fun word => do
      match assignment? dialect word with
      | some a =>
        if a.value matches [.elements _] then return [a.name] else return [← assignmentField writer a]
      | none => fieldsOf writer [word]
    let arrays := (rest.filterMap (assignment? dialect)).filter fun a => a.value matches [.elements _]
    return { fields := first ++ others.flatten, arrays }

/-- Gives an array its elements that a command has just declared. -/
def assignDeclared (writer : Writer) (constant : List Bytes) (a : Assignment) : Acting Unit := do
  let v ← storedVariable a.name
  let lifted := v.constant && !constant.contains a.name
  if lifted then storeVariable a.name { v with constant := false }
  let _ ← assign writer a
  if lifted then storeVariable a.name { (← storedVariable a.name) with constant := true }

/-- Runs the words of a simple command. -/
def runArguments (e : Engine) (manner : Manner) (given : List Assignment) (arguments : Arguments) :
    Acting Nat := do
  let writer := writerOf e
  let s ← shell
  let fields := arguments.fields
  if fields.isEmpty then
    let shown ← given.mapM (assign writer)
    changeShell fun s => { s with lastArgument := [] }
    if !shown.isEmpty then showCommand e shown []
    return (← shell).innerStatus
  else
    let constant := (s.vars.filter fun entry => entry.2.constant).map (·.1)
    withValues writer given (isStrict s.dialect (fields.headD [])) fun shown => do
      showCommand e shown fields
      let status ← runFields e manner fields
      arguments.arrays.forM (assignDeclared writer constant)
      changeShell fun s => { s with lastArgument := fields.getLast?.getD [] }
      return status

/-- Runs a simple command. -/
def runSimple (e : Engine) (manner : Manner) (line : Nat) (assignments words : List Word)
    (redirects : List Redirect) : Acting Nat := do
  changeShell fun s => { s with line, innerStatus := 0 }
  let dialect := (← shell).dialect
  let writer := writerOf e
  let given := assignments.filterMap (assignment? dialect)
  let arguments ← argumentsOf writer words
  let name := arguments.fields.headD []
  let leads ← redirects.mapM (leadOf writer)
  changeShell fun s => { s with line }
  let stays := name = "exec".toList && arguments.fields.length = 1
  let act : Acting Nat := do
    match ← leadAll leads with
    | some status => if isStrict dialect name then throw .fault else return status
    | none => runArguments e manner given arguments
  if stays then act else keepingStreams act

/-! ### Pipelines -/

/-- What a stage of a pipeline finds: what the stage before it wrote, and whether that has no end. -/
structure Supply where
  /-- What streams lead to, as a number. -/
  opened : Nat
  /-- Whether it has no end. -/
  endless : Bool

/-- Runs a stage of a pipeline, and tells how it ends and what the next one finds. -/
def runStage (e : Engine) (manner : Manner) (supply : Option Supply) (isLast : Bool) (command : Command) :
    Acting (ExitStatus × Option Supply) := do
  let output ← if isLast then pure none
    else do pure (some (← addOpened { target := .store, piped := true }))
  let status ← inside (runScript e {}) do
    match supply with
    | some found => lead 0 found.opened
    | none => pure ()
    match output with
    | some n => lead 1 n
    | none => pure ()
    e.run { tested := manner.tested } command
  match supply with
  | some found =>
    let left := ((← get).opened[found.opened]?.map (·.unread)).getD []
    if found.endless && left.isEmpty then throw .stuck
  | none => pure ()
  match output with
  | none => return (status, none)
  | some n =>
    let bytes ← keptBytes n
    let endless := ((← get).opened[n]?.map (·.endless)).getD false
    changeOpened n fun o => { o with written := [] }
    let opened ← addOpened { target := .store, unread := bytes, writes := false }
    return (status, some { opened, endless })

/-- Runs the stages of a pipeline, each of which gets what the one before it wrote. Gives the endings,
and the most that any of them slept. -/
def runStages (e : Engine) (manner : Manner) (start : Nat) :
    Option Supply → Nat → List Command → Acting (List ExitStatus × Nat)
  | _, most, [] => return ([], most)
  | supply, most, command :: rest => do
    modify fun scene => { scene with world := { scene.world with slept := start } }
    let (status, next) ← runStage e manner supply rest.isEmpty command
    let most := max most (← get).world.slept
    let (others, most) ← runStages e manner start next most rest
    return (status :: others, most)

/-- Runs a pipeline. -/
def runPipeline (e : Engine) (manner : Manner) (stages : List Command) : Acting Nat := do
  let start := (← get).world.slept
  let (endings, most) ← runStages e manner start none start stages
  modify fun scene => { scene with world := { scene.world with slept := most } }
  let numbers ← endings.mapM tellEnding
  changeShell fun s => { s with stages := numbers }
  let last := numbers.getLast?.getD 0
  if ← isOn '|' then return (numbers.reverse.find? (· ≠ 0)).getD 0 else return last

end FormatChain.Shell
