import FormatChain.Shell.Evaluation.Commands

/-!
# Starting a shell

A shell is told a script by its arguments, by a file, or by what comes in.

* `Call` : what a shell is told.
* `commonShellProgram`, `richShellProgram` : the shells of the system.
-/

namespace FormatChain.Shell

open FormatChain.Process

/-- What a shell is told. -/
structure Call where
  /-- Whether its first argument is a script. -/
  scripted : Bool := false
  /-- Whether the script comes in. -/
  incoming : Bool := false
  /-- The letters of the settings. -/
  settings : List Char := []
  /-- The other arguments. -/
  args : List Bytes := []
  deriving Inhabited

/-- Why a shell does not start. -/
inductive CallFault where
  /-- A letter means nothing. -/
  | letter (c : Char)
  /-- A name of a setting means nothing. -/
  | name (name : Bytes)

/-- Sets or takes away letters, and tells whether a name of a setting follows. -/
def Call.letters (dialect : Dialect) (on : Bool) (call : Call) : Bytes → Except CallFault (Call × Nat)
  | [] => .ok (call, 0)
  | c :: rest => do
    let named := ((settingNames dialect).map (·.2)).filter fun c => c.isAlpha
    let known : List Char := named ++ (if dialect = .rich then ['l', 'r', 'D'] else ['l'])
    if c = 'c' then Call.letters dialect on { call with scripted := true } rest
    else if c = 'o' then
      let (call, names) ← Call.letters dialect on call rest
      return (call, names + 1)
    else if c = 's' && on then
      Call.letters dialect on { call with incoming := true, settings := call.settings ++ ['s'] } rest
    else if known.contains c then
      let others := call.settings.filter (· ≠ c)
      Call.letters dialect on { call with settings := if on then others ++ [c] else others } rest
    else throw (.letter c)

/-- Sets or takes away settings by their names, as many as are asked for. -/
def Call.named (dialect : Dialect) (on : Bool) :
    Call → Nat → List Bytes → Except CallFault (Call × List Bytes)
  | call, n + 1, name :: rest => do
    match (settingNames dialect).find? fun entry => entry.1.toList = name with
    | some (_, c) =>
      let others := call.settings.filter (· ≠ c)
      Call.named dialect on { call with settings := if on then others ++ [c] else others } n rest
    | none => throw (.name name)
  | call, _, args => .ok (call, args)

/-- What arguments tell a shell, in at most so many steps. -/
def Call.read (dialect : Dialect) : Nat → Call → List Bytes → Except CallFault Call
  | steps + 1, call, (sign :: c :: more) :: rest => do
    if sign = '-' && c = '-' && more.isEmpty then return { call with args := rest }
    else if sign = '-' && c = '-' && dialect = .rich then Call.read dialect steps call rest
    else if sign = '-' || sign = '+' then
      let on : Bool := sign = '-'
      let (call, names) ← call.letters dialect on (c :: more)
      let (call, rest) ← Call.named dialect on call names rest
      Call.read dialect steps call rest
    else return { call with args := (sign :: c :: more) :: rest }
  | _, call, ['-'] :: rest => .ok { call with args := rest }
  | _, call, args => .ok { call with args }

/-- How deep commands may be nested. -/
def commandDepth : Nat := 12000

/-- The names with their values at the start of a shell. -/
def startVariables (dialect : Dialect) (disk : Disk) (j : Job) : List (Bytes × Variable) :=
  let given := j.vars.filter fun entry => isName entry.1
  let imported := given.foldl
    (fun all entry => setEntry entry.1 { value := some entry.2, exported := true } all) []
  let pwd := match (entryOf? "PWD".toList given) with
    | some bytes =>
      match bytes.head?, disk.locateDirectory Path.root (pathOf bytes) with
      | some '/', .ok place => if place.same j.cwd then bytes else bytesOf j.cwd.text
      | _, _ => bytesOf j.cwd.text
    | none => bytesOf j.cwd.text
  let plain (name value : Bytes) (all : List (Bytes × Variable)) :=
    setEntry name { value := some value } all
  let path := match entryOf? "PATH".toList imported with
    | some _ => imported
    | none => plain "PATH".toList defaultPath imported
  let all := plain "IFS".toList [' ', '\t', '\n'] (plain "OPTIND".toList ['1'] path)
  let all := setEntry "PWD".toList { value := some pwd, exported := true } all
  let all := plain "PS4".toList ['+', ' '] (plain "PPID".toList ['1'] all)
  match dialect with
  | .common => plain "PS2".toList ['>', ' '] (plain "PS1".toList ['#', ' '] all)
  | .rich =>
    let level := ((entryOf? "SHLVL".toList given).bind natOf?).getD 0
    let all := setEntry "SHLVL".toList { value := some (digitsOf (level + 1)), exported := true } all
    let fixed (name value : String) (all : List (Bytes × Variable)) :=
      setEntry (bytesOf name) { value := some (bytesOf value), constant := true, numeric := true } all
    let all := fixed "PPID" "1" (fixed "UID" "0" (fixed "EUID" "0" all))
    let version := ["5", "2", "15", "1", "release", "x86_64-pc-linux-gnu"].map bytesOf
    let all := setEntry "BASH_VERSINFO".toList { Variable.ofList version with constant := true } all
    let texts := [("BASH", "/usr/bin/bash"), ("BASH_VERSION", "5.2.15(1)-release"), ("HOSTNAME", "localhost"),
      ("HOSTTYPE", "x86_64"), ("MACHTYPE", "x86_64-pc-linux-gnu"), ("OSTYPE", "linux-gnu"), ("OPTERR", "1")]
    texts.foldl (fun all entry => plain (bytesOf entry.1) (bytesOf entry.2) all) all

/-- How a shell ends that runs a script. -/
def endShell (e : Engine) (act : Acting Nat) : Acting ExitStatus := do
  let result ← attempt do
    let status ← endingOf act
    let status ← runEndTrap (runScript e {}) status
    letLinger
    return status
  match result with
  | .ok status => return status
  | .error (.killed signal) => return .signal signal
  | .error .stuck =>
    modify fun scene => { scene with world := { scene.world with endless := true } }
    return .code 0
  | .error _ => return .code (← shell).status

/-- Does what a shell is told. -/
def obey (e : Engine) (dialect : Dialect) (j : Job) (call : Call) : Acting ExitStatus := do
  let refuse (status : Nat) (words : Bytes) : Acting ExitStatus := do
    let _ ← put 2 (words ++ ['\n'])
    return .code status
  let start : Bytes := match dialect with
    | .common => j.name ++ bytesOf ": 0: "
    | .rich => j.name ++ bytesOf ": "
  if call.scripted then
    match call.args with
    | [] =>
      let words := match dialect with
        | .common => "-c requires an argument"
        | .rich => "-c: option requires an argument"
      refuse 2 (start ++ bytesOf words)
    | text :: others =>
      changeShell fun s => { s with
        name := others.headD j.name, args := others.drop 1, origin := "-c".toList
        settings := if dialect = .rich then s.settings ++ ['c'] else s.settings }
      endShell e (runScript e { final := true } text)
  else
    match call.incoming, call.args with
    | false, file :: others =>
      let scene ← get
      let disk := scene.world.disk
      changeShell fun s => { s with name := file, args := others }
      match disk.locate scene.shell.cwd (pathOf file) with
      | .ok place =>
        let bytes := fileBytes disk place
        if dialect = .rich && "\x7fELF".toList.isPrefixOf bytes then
          refuse 126 (file ++ bytesOf ": " ++ file ++ bytesOf ": cannot execute binary file")
        else endShell e (runScript e {} bytes)
      | .error .isADirectory =>
        match dialect with
        | .common => return .code 0
        | .rich => refuse 126 (file ++ bytesOf ": " ++ file ++ bytesOf ": Is a directory")
      | .error fault =>
        match dialect with
        | .common =>
          let words := match fault with
            | .notFound | .notADirectory => "No such file"
            | e => e.words
          refuse 2 (start ++ bytesOf "cannot open " ++ file ++ bytesOf s!": {words}")
        | .rich =>
          refuse (if fault = .notFound then 127 else 126) (start ++ file ++ bytesOf s!": {fault.words}")
    | _, args =>
      let text := (← unreadOf? 0).getD []
      changeShell fun s => { s with args, settings := s.settings ++ ['s'] }
      match dialect with
      | .common =>
        setUnread 0 []
        endShell e (runScript e {} text)
      | .rich =>
        let text := endedText dialect text
        endShell e (runRest e {} true text (text.length + 2) 0 { dialect, rest := text })

/-- A shell of the system. -/
def shellProgram (dialect : Dialect) (start : Starter) : Program := fun j => do
  let w ← get
  match Call.read dialect (j.args.length + 1) {} j.args with
  | .error fault =>
    let place := match dialect with
      | .common => j.name ++ bytesOf ": 0: "
      | .rich => j.name ++ bytesOf ": "
    let words := match fault, dialect with
      | .letter c, .common => bytesOf "Illegal option -" ++ [c]
      | .letter c, .rich => '-' :: c :: bytesOf ": invalid option"
      | .name name, .common => bytesOf "Illegal option -o " ++ name
      | .name name, .rich => name ++ bytesOf ": invalid option name"
    Running.put .complaints (place ++ words ++ ['\n'])
    return .code 2
  | .ok call =>
    let e := Engine.upTo start commandDepth
    let s : State := {
      dialect, name := j.name, cwd := j.cwd
      settings := call.settings ++ (if dialect = .rich then ['h', 'B'] ++ quietSettings else [])
      options := if dialect = .rich then startShopts else []
      vars := startVariables dialect w.disk j }
    let (status, scene) := (do
      let status ← obey e dialect j call
      dropChannels []
      return status).run { world := w, shell := s }
    set scene.world
    match status with
    | .ok status => return status
    | .error _ => return .code scene.shell.status

/-- The shell of the common language. -/
def commonShellProgram : Starter → Program := shellProgram .common

/-- The shell of the rich language. -/
def richShellProgram : Starter → Program := shellProgram .rich

end FormatChain.Shell
