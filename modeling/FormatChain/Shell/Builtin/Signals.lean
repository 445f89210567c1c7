import FormatChain.Shell.Builtin.Texts

/-!
# Commands for signals

The commands of a shell that send signals, and that say what is done when they come.

* `signalText`, `signalOf?`, `signalWords` : signals and their names.
* `receive`, `sendSignal` : signals that reach processes.
* `setTraps` : what is done on signals.
-/

namespace FormatChain.Shell

open FormatChain.Process

/-! ## Signals -/

/-- The names of the signals that have none in the list of endings. -/
def signalText (n : Nat) : String :=
  if n = 0 then "EXIT"
  else if n = 16 then "16"
  else
    let name := ExitStatus.signalName n
    if !name.isEmpty then (name.drop 3).toString
    else if n = 34 then "RTMIN"
    else if n = 64 then "RTMAX"
    else if 34 < n && n ≤ 49 then s!"RTMIN+{n - 34}"
    else if 49 < n && n < 64 then s!"RTMAX-{64 - n}"
    else toString n

/-- The signal of a name or a number. -/
def signalOf? (rich : Bool) (least : Nat) (text : Bytes) : Option Nat :=
  match natOf? text with
  | some n => if n < 65 then some n else none
  | none =>
    let name := (textOf text).toUpper
    let name := if rich && name.startsWith "SIG" then (name.drop 3).toString else name
    (List.range 65).find? fun n => least ≤ n && signalText n = name

/-- What is said of a signal that ended a command. -/
def signalWords (n : Nat) : String :=
  match n with
  | 1 => "Hangup"
  | 3 => "Quit"
  | 4 => "Illegal instruction"
  | 5 => "Trace/breakpoint trap"
  | 6 => "Aborted"
  | 7 => "Bus error"
  | 8 => "Floating point exception"
  | 9 => "Killed"
  | 10 => "User defined signal 1"
  | 11 => "Segmentation fault"
  | 12 => "User defined signal 2"
  | 14 => "Alarm clock"
  | 15 => "Terminated"
  | 16 => "Stack fault"
  | 24 => "CPU time limit exceeded"
  | 25 => "File size limit exceeded"
  | 26 => "Virtual timer expired"
  | 27 => "Profiling timer expired"
  | 29 => "I/O possible"
  | 30 => "Power failure"
  | 31 => "Bad system call"
  | _ => s!"Signal {n}"

/-- How signals are sent. -/
def killUsage : String :=
  "Usage: kill [-s sigspec | -signum | -sigspec] [pid | job]... or\nkill -l [exitstatus]"

/-- Signals that do nothing unless somebody asks for them. -/
def quietSignals : List Nat := [0, 17, 18, 23, 28]

/-- A signal reaches the shell that was started. One inside it goes on. -/
def receive (signal : Nat) : Acting Unit := do
  if (← shell).inner then
    if signal ≠ 0 then changeShell fun s => { s with outward := s.outward ++ [signal] }
    return ()
  match (← shell).traps.find? fun entry => entry.1 = signal with
  | some (_, action) =>
    if signal ≠ 9 && signal ≠ 19 && !action.isEmpty then
      changeShell fun s => { s with pending := s.pending ++ [signal] }
    else if signal = 9 then throw (.killed signal)
  | none =>
    if !quietSignals.contains signal then throw (.killed signal)

/-- The signals in rows of five, as the rich language lists them. -/
def signalTable : Bytes :=
  let known := (List.range 65).filter fun n => 0 < n && n ≠ 32 && n ≠ 33
  let cells := known.zipIdx.map fun (n, place) =>
    padStart 2 (digitsOf n) ++ bytesOf s!") SIG{signalText n}" ++ [if place % 5 = 4 then '\n' else '\t']
  cells.flatten ++ (if known.length % 5 = 0 then [] else ['\n'])

/-- Writes the names of signals. -/
def listSignals (args : List Bytes) : Acting Nat := do
  match args, (← shell).dialect with
  | [], .common => writeOut (endedLines (['0'] :: (List.range 64).map fun n => bytesOf (signalText (n + 1))))
  | [], .rich => writeOut signalTable
  | arg :: _, .common =>
    match natOf? arg with
    | none => fail s!"Illegal number: {textOf arg}"
    | some n =>
      let signal := if 128 < n then n - 128 else n
      if 0 < signal && signal < 65 then writeOut (bytesOf (signalText signal) ++ ['\n'])
      else fail s!"invalid signal number or exit status: {textOf arg}"
  | _, .rich =>
    let results ← args.mapM fun arg => do
      let found := match natOf? arg with
        | some n =>
          let signal := if 128 < n then n - 128 else n
          if signal < 65 then some (bytesOf (signalText signal)) else none
        | none => (signalOf? true 1 arg).map digitsOf
      match found with
      | some shown => put 1 (shown ++ ['\n'])
      | none =>
        complain (arg ++ bytesOf ": invalid signal specification")
        return false
    return if results.all id then 0 else 1

/-- Takes back what a process would have written after a time. -/
def takeBack (process time : Nat) : Acting Unit := modify fun scene =>
  let kept (pieces : List Piece) : List Piece := pieces.filter fun p => p.writer ≠ process || p.time ≤ time
  { scene with
    world := { scene.world with written := kept scene.world.written }
    opened := scene.opened.map fun o => { o with written := kept o.written } }

/-- Sends a signal to processes. -/
def sendTo (signal : Nat) (targets : List Bytes) : Acting Nat := do
  let rich : Bool := (← shell).dialect = .rich
  let usage : Acting Nat := do
    if rich then
      let _ ← put 2 (bytesOf ("kill: usage: kill [-s sigspec | -n signum | -sigspec] pid | jobspec"
        ++ " ... or kill -l [sigspec]\n"))
      return 2
    else fail killUsage
  match targets with
  | [] => usage
  | _ =>
    let results ← targets.mapM fun target => do
      let digits := if target.head? = some '-' then target.drop 1 else target
      match natOf? digits with
      | none =>
        if rich then
          complain (target ++ bytesOf ": arguments must be process or job IDs")
          return false
        else if target.head? = some '%' then fail s!"No such job: {textOf target}"
        else fail s!"Illegal number: {textOf digits}"
      | some n =>
        let job := (← shell).apart.find? fun job => job.process = n
        let now := (← get).world.slept
        if n = processNumber || n = 0 then
          receive signal
          return true
        else if job.any (fun job => !rich || now < job.ends) then
          if !quietSignals.contains signal then
            changeShell fun s => { s with
              apart := s.apart.map fun other =>
                if other.process = n && now < other.ends then
                  { other with status := .signal signal, ends := now }
                else other }
            takeBack n now
          return true
        else
          if rich then complain (bytesOf "(" ++ target ++ bytesOf ") - No such process")
          else complainText "No such process\n"
          return false
    return if results.all id then 0 else 1

/-- Sends a signal. -/
def sendSignal (args : List Bytes) : Acting Nat := do
  let rich : Bool := (← shell).dialect = .rich
  match args with
  | [] => sendTo 15 []
  | ['-', '-'] :: rest => sendTo 15 rest
  | ['-', 'l'] :: rest => listSignals rest
  | ('-' :: 's' :: more) :: rest =>
    match signalOf? rich 1 ('s' :: more) with
    | some signal => sendTo signal rest
    | none =>
      let (name, rest) := if more.isEmpty then (rest.headD [], rest.drop 1) else (more, rest)
      match signalOf? rich 1 name with
      | some signal => sendTo signal rest
      | none =>
        if rich then
          complain (name ++ bytesOf ": invalid signal specification")
          return 1
        else if name.isEmpty then fail "No arg for -s option"
        else fail s!"invalid signal number or name: {textOf name}"
  | ('-' :: letter :: more) :: rest =>
    match signalOf? rich 1 (letter :: more) with
    | some signal => sendTo signal rest
    | none =>
      if rich then
        complain (letter :: more ++ bytesOf ": invalid signal specification")
        return 1
      else failWith 2 (bytesOf "Illegal option -" ++ [letter])
  | targets => sendTo 15 targets

/-! ## What is done on signals -/

/-- The numbers that stand for what is no signal: the end of a shell, each command, a command with which
something is wrong, and the end of a function. -/
def eventNames : List (String × Nat) := [("EXIT", 0), ("DEBUG", 65), ("ERR", 66), ("RETURN", 67)]

/-- The signal, or what else, something may be done on. -/
def trapOf? (rich : Bool) (text : Bytes) : Option Nat :=
  match signalOf? rich 0 text with
  | some n => some n
  | none =>
    if rich then (eventNames.find? fun entry => entry.1 = (textOf text).toUpper).map (·.2) else none

/-- Writes what is done on signals. -/
def showTraps (chosen : List Nat) : Acting Nat := do
  let rich : Bool := (← shell).dialect = .rich
  let traps := (← shell).traps.filter fun entry => chosen.isEmpty || chosen.contains entry.1
  (traps.mergeSort fun a b => a.1 ≤ b.1).forM fun (signal, action) => do
    let name := match eventNames.find? fun entry => entry.2 = signal with
      | some (name, _) => name
      | none => if rich then "SIG" ++ signalText signal else signalText signal
    let quoted := if rich then singleQuoted action else inSingleQuotes action
    let _ ← put 1 (bytesOf "trap -- " ++ quoted ++ bytesOf s!" {name}\n")
  return 0

/-- Says what is done on signals; nothing special if there is no action. -/
def setTrapsTo (action : Option Bytes) (names : List Bytes) : Acting Nat := do
  let rich : Bool := (← shell).dialect = .rich
  let results ← names.mapM fun name => do
    match trapOf? rich name with
    | some signal =>
      changeShell fun s =>
        let others := s.traps.filter fun entry => entry.1 ≠ signal
        { s with traps := match action with
          | some action => (signal, action) :: others
          | none => others }
      return true
    | none =>
      if rich then complain (name ++ bytesOf ": invalid signal specification")
      else
        let _ ← put 2 (bytesOf "trap: " ++ name ++ bytesOf ": bad trap\n")
      return false
  return if results.all id then 0 else 1

/-- Says what is done on signals. -/
def setTraps (args : List Bytes) : Acting Nat := do
  let rich : Bool := (← shell).dialect = .rich
  let (flags, args) ← if rich then
      if (args.headD []).length < 2 then pure ([], args) else flagsOf "lp" args
    else pure ([], if args.head? = some ['-', '-'] then args.drop 1 else args)
  if hasFlag flags 'l' then listSignals []
  else if hasFlag flags 'p' then showTraps (args.filterMap (trapOf? rich))
  else
    match args with
    | [] => showTraps []
    | [name] =>
      if rich then
        if name = ['-'] || (trapOf? true name).isNone then tellUsage else setTrapsTo none [name]
      else setTrapsTo none [name]
    | action :: names =>
      if action = ['-'] then setTrapsTo none names
      else if (natOf? action).isSome then setTrapsTo none args
      else setTrapsTo (some action) names

end FormatChain.Shell
