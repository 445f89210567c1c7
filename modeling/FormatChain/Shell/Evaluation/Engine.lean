import FormatChain.Shell.Builtin.Doing

/-!
# Running scripts

The commands of a script are run one after the other.  A command in parentheses, in a pipeline or in
a word has a shell of its own, which leaves the one around it as it was.

* `Manner`, `Engine` : what a command is run for, and how programs are started and commands are run.
* `inside` : a shell inside another one.
* `runScript` : the commands of a text.
* `runTrap`, `runPending` : what is done on signals.
-/

namespace FormatChain.Shell

open FormatChain.Process

/-- What a command is run for. -/
structure Manner where
  /-- Whether somebody looks at its result. -/
  tested : Bool := false
  /-- Whether nothing follows it. -/
  final : Bool := false

/-- How programs are started and commands are run. -/
structure Engine where
  /-- Starts a program. -/
  start : Starter
  /-- Runs a command. -/
  run : Manner → Command → Acting Nat

/-! ## Endings -/

/-- The number of an ending. -/
def numberOf : ExitStatus → Nat
  | .code n => n
  | .signal n => 128 + n

/-- Tells of a signal that ended a command, and gives the number of the ending. -/
def tellEnding (status : ExitStatus) : Acting Nat := do
  match status with
  | .code n => return n
  | .signal n =>
    if n ≠ 2 && n ≠ 13 && (← shell).dialect = .common then
      let _ ← put 2 (bytesOf (signalWords n ++ "\n"))
    return 128 + n

/-- The signals, and what else, on which a shell inside another one does what that one does. -/
def State.innerTraps (s : State) : List (Nat × Bytes) :=
  s.traps.filter fun (signal, action) =>
    action.isEmpty || (signal = 66 && s.settings.contains 'E')
      || ((signal = 65 || signal = 67) && s.settings.contains 'T')

/-- Takes the files of commands in words away that are there besides some. -/
def dropChannels (kept : List (Path × Option Command)) : Acting Unit := modify fun scene =>
  let ended := scene.shell.channels.take (scene.shell.channels.length - kept.length)
  let disk := ended.foldl (fun disk entry => disk.remove entry.1) scene.world.disk
  { scene with world := { scene.world with disk }, shell := { scene.shell with channels := kept } }

/-- Lets commands go on that nobody waited for. -/
def letLinger : Acting Unit := modify fun scene =>
  let ends := (scene.shell.apart.filter (·.writes)).foldl (fun last job => max last job.ends) 0
  { scene with world := { scene.world with lingering := max scene.world.lingering ends } }

/-- How a shell ends that does something. Commands that go on and on end the shell around it, too. -/
def endingOf (act : Acting Nat) : Acting ExitStatus := do
  match ← attempt act with
  | .ok n => return .code n
  | .error (.killed signal) => return .signal signal
  | .error .stuck => throw .stuck
  | .error (.replaced status) => return status
  | .error _ => return .code (← shell).status

/-- Does something when the shell ends. -/
def runEndTrap (script : Bytes → Acting Nat) (status : ExitStatus) : Acting ExitStatus := do
  match (← shell).traps.find? fun entry => entry.1 = 0, status with
  | some (_, action), .code n =>
    changeShell fun s => { s with
      traps := s.traps.filter fun entry => entry.1 ≠ 0, status := n, loops := 0, command := none }
    match ← attempt (script action) with
    | .ok _ => return .code n
    | .error .leave => return .code (← shell).status
    | .error .fault => return .code (← shell).status
    | .error (.killed signal) => return .signal signal
    | .error .stuck => throw .stuck
    | .error (.replaced status) => return status
    | .error _ => return .code n
  | _, _ => return status

/-- Does something in a shell inside the shell, and gives the signals that it sent to the shell, too. -/
def enclosed (script : Bytes → Acting Nat) (act : Acting Nat) : Acting (ExitStatus × List Nat) := do
  let before ← shell
  changeShell fun s => { s with
    inner := true
    traps := s.innerTraps
    pending := []
    outward := []
    coming := []
    loops := 0
    depth := s.depth + 1 }
  let result ← attempt (do runEndTrap script (← endingOf act))
  letLinger
  dropChannels before.channels
  let signals := (← shell).outward
  changeShell fun _ => before
  match result with
  | .ok status => return (status, signals)
  | .error flow => throw flow

/-- Does something in a shell inside the shell. -/
def inside (script : Bytes → Acting Nat) (act : Acting Nat) : Acting ExitStatus := do
  let (status, signals) ← enclosed script act
  signals.forM receive
  return status

/-! ## Scripts -/

/-- The text that complaints show which ends at a byte of a line: from the blank or the sign before it on. -/
def nearText (line : Bytes) (stop : Nat) : Bytes :=
  let before := (line.take stop).reverse.dropWhile fun c => c = ' ' || c = '\t' || c = '\n'
  let isMark (c : Char) : Bool := [' ', '\n', '\t', ';', '|', '&'].contains c
  match before with
  | [] => []
  | c :: rest => if isMark c then [c] else (c :: rest.takeWhile fun c => !isMark c).reverse

/-- The wording of a fault of a script in the rich language, a line after the other. -/
def richFaultLines (s : State) (text : Bytes) (line : Nat) (fault : Fault) : List Bytes :=
  let place (line : Nat) : Bytes :=
    s.name ++ (if s.origin.isEmpty then [] else bytesOf ": " ++ s.origin)
      ++ bytesOf s!": line {line}: "
  let lines := linesOf text
  let lastLine := lines.length + 1
  let shown (line : Nat) : Bytes := (lines[line - 1]?.map (·.body)).getD []
  let matching (c : String) : List Bytes :=
    [place line ++ bytesOf s!"unexpected EOF while looking for matching \x60{c}'"]
  let atEnd : Bytes := place lastLine ++ bytesOf "syntax error: unexpected end of file"
  let offending (line : Nat) : Bytes := place line ++ '\x60' :: shown line ++ ['\'']
  match fault with
  | .openQuotes => matching "\""
  | .openBraces => matching "\x7d"
  | .openSum => matching ")"
  | .noSum => matching ")"
  | .openBackquotes => matching "\x60"
  | .openElements => matching ")"
  | .openCommand => [place lastLine ++ bytesOf "unexpected EOF while looking for matching \x60)'"]
  | .missing mark => matching (textOf [mark])
  | .badFunctionName => [place line ++ bytesOf "syntax error: bad function name"]
  | .badLoopName => [place line ++ bytesOf "syntax error: bad loop name"]
  | .tooDeep => [place line ++ bytesOf "nested too deep"]
  | .badClause words left =>
    let first := words.toList.map fun words => place line ++ bytesOf words
    if left = 0 then first ++ [atEnd]
    else
      let before := ((lines.take (line - 1)).map fun l => l.bytes.length).foldl (· + ·) 0
      let stop := text.length - left - before
      first ++ [place line ++ bytesOf "syntax error near \x60" ++ nearText (shown line) stop ++ ['\''],
        offending line]
  | .unexpected token _ =>
    let near (shown : Bytes) : List Bytes :=
      [place line ++ bytesOf "syntax error near unexpected token \x60" ++ shown ++ ['\''], offending line]
    match token with
    | .ending => [atEnd]
    | .newline => near (bytesOf "newline")
    | .sign sign => near (bytesOf sign)
    | .redirect _ sign => near (bytesOf sign)
    | .keyword word => near (bytesOf word)
    | .word _ _ written => near written

/-- Complains about a script, which ends the shell. -/
def refuseScript (text : Bytes) (line : Nat) (fault : Fault) : Acting Nat := do
  let s ← shell
  match s.dialect with
  | .common =>
    changeShell fun s => { s with line }
    fail s!"Syntax error: {fault.message}"
  | .rich =>
    (richFaultLines s text line fault).forM fun words => do
      let _ ← put 2 (words ++ ['\n'])
    setStatus (if fault matches .openElements then 1 else 2)
    throw .fault

/-- A script with the end of its last line, which the rich language adds. -/
def endedText (dialect : Dialect) (text : Bytes) : Bytes :=
  match dialect, text.getLast? with
  | .rich, some c => if c = '\n' then text else text ++ ['\n']
  | _, _ => text

/-- Runs a complete command of a script. If something is wrong with it in the rich language, the script goes
on with the next one, unless all ends: a shell inside another one does, and so does a shell that misses a
value. -/
def runComplete (e : Engine) (manner : Manner) (command : Command) : Acting Nat := do
  match ← attempt (e.run manner command) with
  | .ok status => return status
  | .error .fault =>
    let s ← shell
    if s.dialect = .common then throw .fault
    changeShell fun s => { s with command := none, stages := [s.status] }
    if s.inner then
      setStatus 1
      throw .leave
    else if s.status = 127 then throw .leave
    else return s.status
  | .error flow => throw flow

/-- A reader that goes on as the shell wants it. -/
def Reader.goingOn (r : Reader) (s : State) : Reader :=
  let unfolds := s.dialect = .common || s.options.contains "expand_aliases"
  { r with
    documents := []
    count := s.documentCount
    extended := s.options.contains "extglob"
    aliases := if unfolds then s.aliases else [] }

/-- Runs the commands that are left of a script, in at most so many steps. The rest of the script may
be what comes in. -/
def runRest (e : Engine) (manner : Manner) (shared : Bool) (text : Bytes) : Nat → Nat → Reader →
    Acting Nat
  | 0, status, _ => return status
  | steps + 1, status, reader => do
    match (reader.goingOn (← shell)).next with
    | .error (line, fault) => refuseScript text line fault
    | .ok (none, _) => return status
    | .ok (some command, rest) =>
      changeShell fun s => { s with
        documents := rest.documents ++ s.documents, documentCount := rest.count }
      if shared then setUnread 0 rest.rest
      let atEnd := rest.again && (rest.last matches .ending)
      let status ← match command with
        | .nothing => pure status
        | _ => runComplete e { manner with final := manner.final && atEnd } command
      let rest ← if shared then do pure { rest with rest := (← unreadOf? 0).getD [] } else pure rest
      runRest e manner shared text steps status rest

/-- Runs the commands of a text. -/
def runScript (e : Engine) (manner : Manner) (text : Bytes) : Acting Nat := do
  let s ← shell
  let text := endedText s.dialect text
  runRest e manner false text (text.length + 2) 0 { dialect := s.dialect, rest := text }

/-- Does what is to be done on a signal, or on something else. The result of the last command stays. -/
def runTrap (e : Engine) (signal : Nat) : Acting Unit := do
  let s ← shell
  match s.traps.find? fun entry => entry.1 = signal with
  | some (_, action) =>
    if s.trapping && 65 ≤ signal then return ()
    changeShell fun s => { s with trapping := s.trapping || 65 ≤ signal }
    let result ← attempt (runScript e {} action)
    changeShell fun other => { other with trapping := s.trapping, status := s.status, line := s.line }
    match result with
    | .ok _ => return ()
    | .error flow => throw flow
  | none => return ()

/-- Does what is to be done on the signals that came. -/
def runPending (e : Engine) : Acting Unit := do
  let now := (← get).world.slept
  let due := (← shell).coming.filter fun entry => entry.1 ≤ now
  if !due.isEmpty then
    changeShell fun s => { s with coming := s.coming.filter fun entry => now < entry.1 }
    due.forM fun entry => receive entry.2
  let s ← shell
  match s.pending with
  | [] => return ()
  | signals =>
    changeShell fun s => { s with pending := [] }
    signals.forM (runTrap e)

end FormatChain.Shell
