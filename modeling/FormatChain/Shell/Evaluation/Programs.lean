import FormatChain.Shell.Evaluation.Engine

/-!
# Running programs and functions

A program finds what the streams of the shell lead to.  A function is a command with arguments of its
own.

* `outputOf`, `channelOf`, `writerOf` : commands in words.
* `startProgram`, `runProgram` : programs.
* `callFunction`, `runOwn` : functions and commands of the shell.
-/

namespace FormatChain.Shell

open FormatChain.Process

/-! ## Commands in words -/

/-- Bytes without the ends of lines at their end. -/
def withoutLineEnds (bytes : Bytes) : Bytes := (bytes.reverse.dropWhile (· = '\n')).reverse

/-- What a command writes, and how it ends. -/
def written (e : Engine) (command : Command) : Acting (Bytes × Nat) := do
  let n ← addOpened { target := .store, piped := true }
  let before := (← get).world.lingering
  let status ← inside (runScript e {}) do
    changeShell fun s =>
      let lax := s.dialect = .rich && !s.options.contains "inherit_errexit"
      { s with
        apart := []
        traceDepth := s.traceDepth + 1
        settings := if lax then s.settings.filter (· ≠ 'e') else s.settings }
    lead 1 n
    e.run {} command
  modify fun scene =>
    let world := scene.world
    if before < world.lingering then
      { scene with world := { world with slept := max world.slept world.lingering } }
    else scene
  let number ← tellEnding status
  let bytes ← keptBytes n
  changeOpened n fun o => { o with written := [] }
  return (bytes, number)

/-- What a command writes, without the ends of lines at its end. -/
def outputOf (e : Engine) (command : Command) : Acting Bytes := do
  let (bytes, number) ← written e command
  changeShell fun s => { s with
    innerStatus := number, status := if s.dialect = .rich then number else s.status }
  return withoutLineEnds (bytes.filter (· ≠ '\x00'))

/-- The path of a file that a command writes, or that it reads when the command around it is done. -/
def channelOf (e : Engine) (writes : Bool) (command : Command) : Acting Bytes := do
  let name := bytesOf s!"/dev/fd/{63 - (← shell).channels.length}"
  let path := pathOf name
  let bytes ← if writes then do pure (← written e command).1 else pure []
  modify fun scene =>
    let disk := scene.world.disk.putBytes path (toNumbers bytes)
    let reader := if writes then none else some command
    { scene with
      world := { scene.world with disk }
      shell := { scene.shell with channels := (path, reader) :: scene.shell.channels } }
  return name

/-- Runs the commands that read files, in the order in which the files were made, and takes all files
away that are there besides some. -/
def closeChannels (e : Engine) (kept : List (Path × Option Command)) : Acting Unit := do
  let s ← shell
  let ended := s.channels.take (s.channels.length - kept.length)
  if ended.isEmpty then return ()
  ended.reverse.forM fun (path, reader) => do
    match reader with
    | none => pure ()
    | some command =>
      let bytes := fileBytes (← get).world.disk path
      let n ← addOpened { target := .store, unread := bytes, writes := false }
      let _ ← inside (runScript e {}) do
        lead 0 n
        e.run {} command
  dropChannels kept

/-- What commands in words do. -/
def writerOf (e : Engine) : Writer := { output := outputOf e, channel := channelOf e }

/-! ## Programs -/

/-- Starts a program at a path. What it finds and leaves goes where the streams lead. -/
def startProgram (e : Engine) (path : Bytes) (words : List Bytes) :
    Acting (Except SystemError ExitStatus) := do
  let scene ← get
  let input ← unreadOf? 0
  let isDirectory := match ← streamAt? 0 with
    | some (_, o) => decide (o.target = Target.directory)
    | none => false
  let job : Job := {
    name := words.headD path
    args := words.drop 1
    cwd := scene.shell.cwd
    vars := scene.shell.exports }
  let found : World := { scene.world with
    input := input.getD [], written := [], endless := false, inputFault :=
      if isDirectory then some .isADirectory else if input.isNone then some .badStream else none }
  let (result, after) := (e.start path job).run found
  match result with
  | .error fault => return .error fault
  | .ok status =>
    modify fun scene => { scene with
      world := { scene.world with
        disk := after.disk, slept := after.slept, lingering := after.lingering } }
    if input.isSome then setUnread 0 after.input
    after.written.reverse.forM fun piece => do
      modify fun scene => { scene with world := { scene.world with slept := piece.time } }
      let _ ← put (match piece.stream with
        | .output => 1
        | .complaints => 2) piece.bytes
    modify fun scene => { scene with world := { scene.world with slept := after.slept } }
    if after.endless then
      match ← streamAt? 1 with
      | some (n, o) =>
        if o.piped then changeOpened n fun o => { o with endless := true } else throw .stuck
      | none => throw .stuck
    return .ok status

/-- Complains that a program cannot be started, and gives the number that says so. -/
def refuseProgram (name : Bytes) (fault : SystemError) : Acting Nat := do
  match (← shell).dialect with
  | .common =>
    match fault with
    | .notFound | .notADirectory =>
      complain (name ++ bytesOf ": not found")
      return 127
    | .nameTooLong | .tooManyLinks =>
      complain (name ++ bytesOf s!": {fault.words}")
      return 127
    | _ =>
      complain (name ++ bytesOf s!": {fault.words}")
      return 126
  | .rich =>
    let scene ← get
    let isDirectory := match scene.world.disk.find scene.shell.cwd (pathOf name) with
      | .ok (.directory _) => true
      | _ => false
    let words := if isDirectory then SystemError.isADirectory.words else fault.words
    complain (name ++ bytesOf s!": {words}")
    return if fault = .notFound then 127 else 126

/-- Complains that there is no such command. -/
def refuseCommand (name : Bytes) : Acting Nat := do
  complain (name ++ bytesOf (← worded ": not found" ": command not found"))
  return 127

/-- Runs the program of words. If nothing follows, it takes the place of the shell. -/
def runProgram (e : Engine) (final : Bool) (usual : Bool) (words : List Bytes) : Acting Nat := do
  let name := words.headD []
  let scene ← get
  let path ← if usual then pure (programIn scene.world.disk scene.shell.cwd name defaultPath)
    else programPath? name
  match path with
  | none => refuseCommand name
  | some path =>
    if !usual then remember name path true
    let result ← match ← startProgram e path words with
      | .error .noProgram => startProgram e scriptShell (scriptShell :: path :: words.drop 1)
      | result => pure result
    match result with
    | .error fault => refuseProgram name fault
    | .ok status =>
      if final && (← shell).traps.isEmpty then throw (.replaced status) else tellEnding status

/-! ## Functions and own commands -/

/-- How deep functions may call each other. -/
def callLimit : Dialect → Nat
  | .common => 1000
  | .rich => 3000

/-- Gives names the values that they had before. -/
def restoreNames (names : List (Bytes × Option Variable)) : Acting Unit := changeShell fun s =>
  let restore (vars : List (Bytes × Variable)) (entry : Bytes × Option Variable) :=
    match entry.2 with
    | some v => setEntry entry.1 v vars
    | none => vars.filter fun other => other.1 ≠ entry.1
  { s with vars := names.foldl restore s.vars }

/-- What is done on commands and ends that a function does not do, unless it is wanted. -/
def State.hiddenTraps (s : State) (traced : Bool) : List (Nat × Bytes) :=
  s.traps.filter fun entry =>
    ((entry.1 = 65 || entry.1 = 67) && !traced && !s.settings.contains 'T')
      || (entry.1 = 66 && !s.settings.contains 'E')

/-- Calls a function. -/
def callFunction (e : Engine) (manner : Manner) (name : Bytes) (f : Function) (args : List Bytes) :
    Acting Nat := do
  let before ← shell
  let limit := callLimit before.dialect
  if limit ≤ before.calls.length then
    match before.dialect with
    | .common => fail s!"Maximum function recursion depth ({limit}) reached"
    | .rich => throw (.killed 11)
  let call : Calling := { name, source := f.source, line := before.line }
  let hidden := before.hiddenTraps ((entryOf? name before.vars).any (·.traced))
  changeShell fun s => { s with
    args := args, functionLine := some f.line, loops := 0, calls := call :: s.calls, optionPlace := 0
    traps := s.traps.filter fun entry => !hidden.any (·.1 = entry.1) }
  let result ← attempt do
    let status ← match ← attempt (e.run { tested := manner.tested } f.body) with
      | .ok status => pure status
      | .error .giveBack => do pure (← shell).status
      | .error flow => throw flow
    setStatus status
    runTrap e 67
    return status
  restoreNames (((← shell).calls.head?.map (·.saved)).getD [])
  changeShell fun s => { s with
    args := before.args, functionLine := before.functionLine, loops := before.loops
    calls := before.calls, optionPlace := before.optionPlace
    traps := s.traps ++ hidden.filter fun entry => !s.traps.any (·.1 = entry.1)
    line := if before.dialect = .rich then before.line else s.line }
  match result with
  | .ok status => return status
  | .error flow => throw flow

/-- Whether a command of the shell ends it if something is wrong. -/
def isStrict (dialect : Dialect) (name : Bytes) : Bool :=
  dialect = .common && (specialCommands dialect).contains (textOf name)

/-- Runs a command of the shell. -/
def runOwn (strict : Bool) (name : Bytes) (act : Acting Nat) : Acting Nat := do
  let before := (← shell).command
  changeShell fun s => { s with command := some name }
  let result ← attempt act
  changeShell fun s => { s with command := before }
  match result with
  | .ok status => return status
  | .error .fault => if strict then throw .fault else return (← shell).status
  | .error flow => throw flow

end FormatChain.Shell
