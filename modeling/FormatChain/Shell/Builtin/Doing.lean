import FormatChain.Shell.Builtin.Commands
import FormatChain.Shell.Builtin.Places
import FormatChain.Shell.Builtin.Signals
import FormatChain.Shell.Builtin.Values
import FormatChain.Shell.Redirection

/-!
# Commands of a shell

The commands of a shell that end loops, functions and the shell, that run scripts, and that wait for
others; and the names of all commands of a shell.

* `leaveLoops`, `leaveShell`, `giveBack` : endings.
* `runFile`, `waitFor` : scripts and commands that were left to themselves.
* `ownCommand?` : the command of a name.
-/

namespace FormatChain.Shell

open FormatChain.Process

/-- Leaves loops, or goes on with them. -/
def leaveLoops (on : Bool) (args : List Bytes) : Acting Nat := do
  let rich : Bool := (← shell).dialect = .rich
  let loops := (← shell).loops
  let args := if rich && args.head? = some ['-', '-'] then args.drop 1 else args
  if rich && loops = 0 then
    complainText "only meaningful in a \x60for', \x60while', or \x60until' loop"
    return 0
  let n ← match args with
    | arg :: _ =>
      if rich then
        match intOf? arg with
        | some n =>
          if n ≤ 0 then
            complain (arg ++ bytesOf ": loop count out of range")
            setStatus 1
            throw (.breakOut loops)
          else pure n.toNat
        | none =>
          complain (arg ++ bytesOf ": numeric argument required")
          setStatus 128
          throw .leave
      else do
        let n ← numberArgument arg
        if n = 0 then fail s!"Illegal number: {textOf arg}"
        pure n
    | [] => pure 1
  if loops = 0 then return 0
  let n := min n loops
  throw (if on then .goOn n else .breakOut n)

/-- The number with which a shell or a function of the rich language ends; too many arguments end the
shell. -/
def endingArgument (arg : Bytes) (others : List Bytes) : Acting Nat := do
  if !others.isEmpty then
    complainText "too many arguments"
    setStatus 1
    throw .leave
  match intOf? arg with
  | some n => return (n % 256).toNat
  | none =>
    complain (arg ++ bytesOf ": numeric argument required")
    return 2

/-- Ends the shell. -/
def leaveShell (args : List Bytes) : Acting Nat := do
  let s ← shell
  let args := if s.dialect = .rich && args.head? = some ['-', '-'] then args.drop 1 else args
  match args with
  | [] => throw .leave
  | arg :: others =>
    match s.dialect with
    | .common => setStatus ((← numberArgument arg) % 256)
    | .rich => setStatus (← endingArgument arg others)
    throw .leave

/-- Ends the function, or the script. -/
def giveBack (args : List Bytes) : Acting Nat := do
  let s ← shell
  if s.dialect = .rich && s.calls.isEmpty && !s.sourced then
    complainText "can only \x60return' from a function or sourced script"
    return 2
  match args with
  | [] => throw .giveBack
  | arg :: others =>
    match s.dialect with
    | .common => setStatus (← numberArgument arg)
    | .rich => setStatus (← endingArgument arg others)
    throw .giveBack

/-- Runs the script in a file. -/
def runFile (hands : Hands) (args : List Bytes) : Acting Nat := do
  let rich : Bool := (← shell).dialect = .rich
  match args with
  | [] =>
    if rich then misuse (bytesOf "filename argument required") else return 0
  | name :: others =>
    let scene ← get
    let disk := scene.world.disk
    let cwd := scene.shell.cwd
    let directories := (← valueOf? "PATH".toList).getD []
    let candidates := if name.contains '/' then [name]
      else (splitAtByte ':' directories).map (fun dir => if dir.isEmpty then name else dir ++ '/' :: name)
        ++ (if rich then [name] else [])
    let found := candidates.find? fun path => (disk.locate cwd (pathOf path)).toOption.isSome
    match found with
    | none =>
      if rich then
        let command := (← shell).command
        changeShell fun s => { s with command := none }
        complain (name ++ bytesOf ": No such file or directory")
        changeShell fun s => { s with command }
        return 1
      else if name.contains '/' then
        let words := match disk.locate cwd (pathOf name) with
          | .error .notFound => "No such file"
          | .error .notADirectory => "No such file"
          | .error e => e.words
          | .ok _ => ""
        failWith 2 (bytesOf "cannot open " ++ name ++ bytesOf s!": {words}")
      else failWith 2 (name ++ bytesOf ": not found")
    | some path =>
      match disk.locate cwd (pathOf path) with
      | .error _ => return 1
      | .ok place =>
        let before := (← shell).args
        let sourced := (← shell).sourced
        if rich && !others.isEmpty then changeShell fun s => { s with args := others }
        let command := (← shell).command
        let calls := (← shell).calls
        let call : Calling := {
          name := "source".toList, isFunction := false, source := path, line := (← shell).line }
        changeShell fun s => { s with
          command := if rich then none else some path, sourced := true
          calls := if rich then call :: s.calls else s.calls }
        let result ← attempt (hands.script (fileBytes disk place))
        changeShell fun s => { s with
          command, sourced
          calls := if rich then (s.calls.drop (s.calls.length - calls.length)) else s.calls }
        if rich && !others.isEmpty then changeShell fun s => { s with args := before }
        match result with
        | .ok status => return status
        | .error .giveBack => return (← shell).status
        | .error flow => throw flow

/-- Lets time pass until commands end. -/
def passUntilEnded (jobs : List Apart) : Acting Unit := modify fun scene =>
  let ends := jobs.foldl (fun last job => max last job.ends) scene.world.slept
  { scene with world := { scene.world with slept := ends } }

/-- Waits for a command that was left to itself. -/
def waitForOne (arg : Bytes) : Acting Nat := do
  let s ← shell
  let rich : Bool := s.dialect = .rich
  match s.apart.find? fun job => natOf? arg = some job.process with
  | some job =>
    passUntilEnded [job]
    if rich then
      changeShell fun s => { s with apart := s.apart.filter fun other => other.process ≠ job.process }
    match job.status with
    | .code n => return n
    | .signal n =>
      if !rich && n ≠ 2 && n ≠ 13 then
        let _ ← put 2 (bytesOf (signalWords n ++ "\n"))
      return 128 + n
  | none =>
    if rich then
      match natOf? arg with
      | some _ => complain (bytesOf "pid " ++ arg ++ bytesOf " is not a child of this shell")
      | none =>
        if arg.head? = some '%' then
          complain (arg ++ bytesOf ": no such job")
          return 127
        complain ('\x60' :: arg ++ bytesOf "': not a pid or valid job spec")
        return 1
    else if (natOf? arg).isNone && arg.head? ≠ some '%' then
      return ← failWith 2 (bytesOf "Illegal number: " ++ arg)
    return 127

/-- Waits for commands that were left to themselves. -/
def waitFor (args : List Bytes) : Acting Nat := do
  let (flags, args) ← match (← shell).dialect with
    | .rich => flagsOf "fnp:" args
    | .common => pure ([], args)
  if hasFlag flags 'n' then
    match (← shell).apart.getLast? with
    | some job => return ← waitForOne (digitsOf job.process)
    | none => return 127
  match args with
  | [] =>
    let s ← shell
    passUntilEnded s.apart
    if s.dialect = .rich then changeShell fun s => { s with apart := [] }
    return 0
  | _ => args.foldlM (fun _ arg => waitForOne arg) 0

/-- Replaces the shell by a command, which may get another name. -/
def replaceShell (hands : Hands) (args : List Bytes) : Acting Nat := do
  let (flags, words) ← match (← shell).dialect with
    | .rich => flagsOf "cla:" args
    | .common => pure ([], if args.head? = some ['-', '-'] then args.drop 1 else args)
  if words.isEmpty then return 0 else hands.exec (flagValue? flags 'a') words

/-- Writes a limit of the system. -/
def showLimit (args : List Bytes) : Acting Nat := do
  match (← shell).dialect, args with
  | .common, ('-' :: letters) :: _ =>
    match letters.find? fun c => !("HSatfdscmlpnvwr".toList.contains c) with
    | some c => return ← failWith 2 (bytesOf "Illegal option -" ++ [c])
    | none => pure ()
  | _, _ => pure ()
  match args with
  | ['-', 'c'] :: _ => writeOut (bytesOf "0\n")
  | ['-', 'n'] :: [] => writeOut (bytesOf "1048576\n")
  | ['-', 's'] :: [] => writeOut (bytesOf "8192\n")
  | _ => writeOut (bytesOf "unlimited\n")

/-- Tells from where the function at work was called. -/
def tellCaller (args : List Bytes) : Acting Nat := do
  let s ← shell
  match args with
  | [] =>
    match s.calls with
    | [] => return 1
    | [call] =>
      writeOut (digitsOf call.line ++ ' ' :: (if s.origin.isEmpty then s.name else bytesOf "NULL") ++ ['\n'])
    | call :: other :: _ => writeOut (digitsOf call.line ++ ' ' :: other.source ++ ['\n'])
  | arg :: _ =>
    match natOf? arg with
    | none => misuse (arg ++ bytesOf ": invalid number")
    | some n =>
      match s.calls[n]?, s.calls[n + 1]? with
      | some call, some other =>
        writeOut (digitsOf call.line ++ ' ' :: other.name ++ ' ' :: other.source ++ ['\n'])
      | some call, none =>
        if s.origin.isEmpty then
          writeOut (digitsOf call.line ++ bytesOf " main " ++ s.name ++ ['\n'])
        else return 1
      | none, _ => return 1

/-- The command of a name that only the rich language has. -/
def richCommand? (hands : Hands) (name : String) : Option (List Bytes → Acting Nat) :=
  match name with
  | "source" => some (runFile hands)
  | "builtin" => some (runBuiltin hands)
  | "let" => some letSums
  | "declare" => some declareNames
  | "typeset" => some declareNames
  | "mapfile" => some readRows
  | "readarray" => some readRows
  | "shopt" => some setShopts
  | "enable" => some listEnabled
  | "pushd" => some pushDirectory
  | "popd" => some popDirectory
  | "dirs" => some listDirectories
  | "compgen" => some completions
  | "caller" => some tellCaller
  | "complete" => some fun _ => return 0
  | "compopt" => some fun _ => failWith 1 (bytesOf "not currently executing completion function")
  | "bind" => some fun _ => do
    complainText "warning: line editing not enabled"
    return 0
  | "history" => some fun _ => return 0
  | "fc" => some fun _ => return 0
  | "disown" => some fun _ => failWith 1 (bytesOf "current: no such job")
  | "suspend" => some fun _ => failWith 1 (bytesOf "cannot suspend: no job control")
  | "logout" => some fun _ => failWith 1 (bytesOf "not login shell: use \x60exit'")
  | "help" => some fun _ => return 0
  | _ => none

/-- The command of a name, if the shell has one. -/
def ownCommand? (hands : Hands) (dialect : Dialect) (name : String) :
    Option (List Bytes → Acting Nat) :=
  match name with
  | ":" => some fun _ => return 0
  | "true" => some fun _ => return 0
  | "false" => some fun _ => return 1
  | "echo" => some echoArgs
  | "printf" => some printfArgs
  | "test" => some (testArgs false)
  | "[" => some (testArgs true)
  | "cd" => some changeDirectory
  | "pwd" => some writeDirectory
  | "umask" => some setMask
  | "kill" => some sendSignal
  | "trap" => some setTraps
  | "type" => some describeAll
  | "command" => some (findCommand hands)
  | "break" => some (leaveLoops false)
  | "continue" => some (leaveLoops true)
  | "exit" => some leaveShell
  | "return" => some giveBack
  | "." => some (runFile hands)
  | "eval" => some fun args => do
    match args, dialect with
    | ('-' :: c :: more) :: _, .rich =>
      if c = '-' && more.isEmpty then hands.script (joinWith [' '] (args.drop 1))
      else misuse ('-' :: c :: bytesOf ": invalid option")
    | _, _ => hands.script (joinWith [' '] args)
  | "exec" => some (replaceShell hands)
  | "export" => some exportNames
  | "readonly" => some makeConstant
  | "local" => some makeLocal
  | "unset" => some unsetNames
  | "set" => some setOptions
  | "shift" => some shiftArgs
  | "read" => some readLine
  | "getopts" => some nextOption
  | "times" => some fun _ => match dialect with
    | .common => writeOut (bytesOf "0m0.000000s 0m0.000000s\n0m0.000000s 0m0.000000s\n")
    | .rich => writeOut (bytesOf "0m0.000s 0m0.000s\n0m0.000s 0m0.000s\n")
  | "ulimit" => some showLimit
  | "wait" => some waitFor
  | "hash" => some lookForPrograms
  | "jobs" => some fun _ => return 0
  | "alias" => some nameTexts
  | "unalias" => some unnameTexts
  | "fg" => some fun _ => if dialect = .rich then failWith 1 (bytesOf "no job control") else fail "No current job"
  | "bg" => some fun _ => if dialect = .rich then failWith 1 (bytesOf "no job control") else fail "No current job"
  | _ => if dialect = .rich then richCommand? hands name else none

end FormatChain.Shell
