import FormatChain.Shell.Builtin.Texts
import FormatChain.Shell.State

/-!
# Commands for commands

Some commands tell what a name stands for, and run what it stands for.

* `specialCommands`, `ownCommands` : the commands of a shell.
* `programPath?` : where a program is.
* `Known`, `knownAs` : what a name stands for.
* `Hands` : how commands are run.
* `describeAll`, `findCommand` : what names of commands stand for, and running them.
* `lookForPrograms` : the programs that were looked for.
* `nameTexts`, `unnameTexts` : short names.
* `completions` : words that may be meant.
-/

/-!
## What names of commands stand for

A name stands for a word with a meaning, a function, a command of the shell, or a program that is
found in one of the directories for programs.
-/

namespace FormatChain.Shell

open FormatChain.Process

/-- The commands of a shell that end it if something is wrong with them. -/
def specialCommands (dialect : Dialect) : List String :=
  [".", ":", "break", "continue", "eval", "exec", "exit", "export", "readonly", "return", "set",
    "shift", "times", "trap", "unset"] ++ (if dialect = .common then ["local"] else [])

/-- The other commands of a shell. -/
def ownCommands : Dialect → List String
  | .common => ["[", "alias", "bg", "cd", "command", "echo", "false", "fg", "getopts", "hash", "jobs",
      "kill", "printf", "pwd", "read", "test", "true", "type", "ulimit", "umask", "unalias",
      "wait"]
  | .rich => ["[", "alias", "bg", "bind", "builtin", "caller", "cd", "command", "compgen", "complete",
      "compopt", "declare", "dirs", "disown", "echo", "enable", "false", "fc", "fg", "getopts", "hash", "help",
      "history", "jobs", "kill", "let", "local", "logout", "mapfile", "popd", "printf", "pushd", "pwd", "read",
      "readarray", "shopt", "source", "suspend", "test", "true", "type", "typeset", "ulimit", "umask",
      "unalias", "wait"]

/-- Where programs are looked for if nothing says so. -/
def defaultPath : Bytes := "/usr/local/sbin:/usr/local/bin:/usr/sbin:/usr/bin:/sbin:/bin".toList

/-- Whether a path is that of a program. -/
def isProgram (disk : Disk) (cwd : Path) (name : Bytes) : Bool :=
  match disk.find cwd (pathOf name) with
  | .ok (.file place) => disk.executable.any (·.same place)
  | _ => false

/-- Where a program is, in the first of directories in which it is. -/
def programIn (disk : Disk) (cwd : Path) (name directories : Bytes) : Option Bytes :=
  let all := (splitAtByte ':' directories).map fun dir =>
    if dir.isEmpty then name else if dir.getLast? = some '/' then dir ++ name else dir ++ '/' :: name
  all.find? (isProgram disk cwd)

/-- Where a program is. A name with a slash is a path. -/
def programPath? (name : Bytes) : Acting (Option Bytes) := do
  let scene ← get
  if name.contains '/' then return some name
  else if name.isEmpty then return none
  else
    let directories := (← valueOf? "PATH".toList).getD []
    return programIn scene.world.disk scene.shell.cwd name directories

/-- What a name of a command stands for. -/
inductive Known where
  /-- A word with a meaning. -/
  | keyword
  /-- A function. -/
  | function
  /-- A command of the shell that ends it if something is wrong with it. -/
  | special
  /-- Another command of the shell. -/
  | own
  /-- A program, by its path. -/
  | program (path : Bytes)
  /-- Nothing. -/
  | nothing
  deriving DecidableEq

/-- What a name of a command stands for. -/
def knownAs (name : Bytes) : Acting Known := do
  let s ← shell
  let text := textOf name
  if (keywords s.dialect).contains text then return .keyword
  else if (entryOf? name s.functions).isSome then return .function
  else if (specialCommands s.dialect).contains text then return .special
  else if (ownCommands s.dialect).contains text then return .own
  else
    match ← programPath? name with
    | some path =>
      let scene ← get
      if isProgram scene.world.disk s.cwd path then return .program path else return .nothing
    | none => return .nothing

/-- Where a program that was looked for stands among the others. -/
def foundPlace (dialect : Dialect) (name : Bytes) : Nat :=
  match dialect with
  | .common => (name.foldl (fun n c => n + c.toNat) ((name.head?.map Char.toNat).getD 0 * 16)) % 32768 % 31
  | .rich => keyPlace name % 256

/-- Remembers a program that was looked for, and whether it was started. -/
def remember (name path : Bytes) (started : Bool) : Acting Unit := do
  if name.contains '/' then return ()
  changeShell fun s =>
    let count := match entryOf? name s.found with
      | some (other, n) => if other = path then n else 0
      | none => 0
    { s with found := setEntry name (path, if started then count + 1 else count) s.found }

end FormatChain.Shell

/-!
## Commands for commands

The commands of a shell that say what the name of a command stands for, that run one, and that give
texts short names.
-/

namespace FormatChain.Shell

open FormatChain.Process

/-- How commands are run. -/
structure Hands where
  /-- Runs a script. -/
  script : Bytes → Acting Nat
  /-- Runs the command of words, which is no function; whether it is only looked for in the usual
  places. -/
  words : Bool → List Bytes → Acting Nat
  /-- Lets the command of words take the place of the shell, maybe under another name. -/
  exec : Option Bytes → List Bytes → Acting Nat

/-! ### What names stand for -/

/-- Says what a name of a command stands for. -/
def describe (name : Bytes) : Acting Bool := do
  let s ← shell
  let rich : Bool := s.dialect = .rich
  let said (text : Bytes) : Acting Bool := do
    let _ ← put 1 (name ++ bytesOf " is " ++ text ++ ['\n'])
    return true
  let alias_ := if rich then none else entryOf? name s.aliases
  match ← knownAs name, alias_ with
  | .keyword, _ => said (bytesOf "a shell keyword")
  | _, some text => said (bytesOf "an alias for " ++ text)
  | .function, _ => said (bytesOf (if rich then "a function" else "a shell function"))
  | .special, _ => said (bytesOf (if rich then "a shell builtin" else "a special shell builtin"))
  | .own, _ => said (bytesOf "a shell builtin")
  | .program path, _ =>
    if name.contains '/' then said path
    else
      match (entryOf? name s.found), rich with
      | some (path, _), true => said (bytesOf "hashed (" ++ path ++ [')'])
      | some (path, _), false => said (bytesOf "a tracked alias for " ++ path)
      | none, _ =>
        if !rich then remember name path false
        said path
  | .nothing, _ =>
    if rich then complain (name ++ bytesOf ": not found")
    else
      let _ ← put 1 (name ++ bytesOf ": not found\n")
    return false

/-- What kind of command a name stands for. -/
def kindOfCommand (known : Known) : String :=
  match known with
  | .keyword => "keyword\n"
  | .function => "function\n"
  | .special => "builtin\n"
  | .own => "builtin\n"
  | .program _ => "file\n"
  | .nothing => ""

/-- Where all programs of a name are. -/
def programsOf (name : Bytes) : Acting (List Bytes) := do
  let scene ← get
  let isOne := isProgram scene.world.disk scene.shell.cwd
  if name.contains '/' then return if isOne name then [name] else []
  let directories := (← valueOf? "PATH".toList).getD []
  return ((splitAtByte ':' directories).map fun dir => if dir.isEmpty then name else dir ++ '/' :: name).filter
    isOne

/-- Says what a name of a command stands for in the rich language, as options want it. -/
def describeRich (flags : List (Char × Bytes)) (name : Bytes) : Acting Bool := do
  let known ← knownAs name
  let programs ← programsOf name
  let chosen := if hasFlag flags 'a' then programs else programs.take 1
  let isProgramOnly := known matches .program _
  if hasFlag flags 'P' then
    let _ ← put 1 (endedLines chosen)
    return !chosen.isEmpty
  else if hasFlag flags 'p' then
    let _ ← put 1 (if isProgramOnly || hasFlag flags 'a' then endedLines chosen else [])
    return known ≠ .nothing
  else if hasFlag flags 't' then
    let more := if isProgramOnly || !hasFlag flags 'a' then [] else chosen
    let _ ← put 1 (bytesOf (kindOfCommand known) ++ (more.map fun _ => bytesOf "file\n").flatten)
    return known ≠ .nothing
  else if hasFlag flags 'a' then
    let found ← if isProgramOnly then pure true else describe name
    chosen.forM fun path => do let _ ← put 1 (name ++ bytesOf " is " ++ path ++ ['\n'])
    return found
  else describe name

/-- Says what names of commands stand for. -/
def describeAll (args : List Bytes) : Acting Nat := do
  match (← shell).dialect with
  | .common =>
    let found ← args.mapM describe
    return if found.all id then 0 else 127
  | .rich =>
    let (flags, names) ← flagsOf "afptP" args
    let found ← names.mapM (describeRich flags)
    return if found.all id then 0 else 1

/-- Writes how a name of a command is called. -/
def writeKnown (name : Bytes) : Acting Bool := do
  let s ← shell
  let alias_ := if s.dialect = .rich then none else entryOf? name s.aliases
  match ← knownAs name, alias_ with
  | .keyword, _ => put 1 (name ++ ['\n'])
  | _, some text => put 1 (bytesOf "alias " ++ name ++ '=' :: inSingleQuotes text ++ ['\n'])
  | .nothing, _ => return false
  | .program path, _ => put 1 (path ++ ['\n'])
  | _, _ => put 1 (name ++ ['\n'])

/-- Runs a command that is no function, or says what it is. -/
def findCommand (hands : Hands) (args : List Bytes) : Acting Nat := do
  let rich : Bool := (← shell).dialect = .rich
  let (flags, words) ← if rich then flagsOf "pvV" args
    else match args with
      | ['-', '-'] :: words => pure ([], words)
      | ['-', c] :: words =>
        if ['p', 'v', 'V'].contains c then pure ([(c, [])], words)
        else failWith 2 (bytesOf "Illegal option -" ++ [c])
      | words => pure ([], words)
  let status (found : List Bool) : Nat :=
    if rich then (if found.any id then 0 else 1) else (if found.all id then 0 else 127)
  if words.isEmpty then return 0
  else if hasFlag flags 'V' then return status (← (if rich then words else words.take 1).mapM describe)
  else if hasFlag flags 'v' then return status (← (if rich then words else words.take 1).mapM writeKnown)
  else hands.words (hasFlag flags 'p') words

/-- Runs a command of the shell, whatever functions there are. -/
def runBuiltin (hands : Hands) (args : List Bytes) : Acting Nat := do
  let (_, words) ← flagsOf "" args
  match words with
  | [] => return 0
  | name :: _ =>
    if (specialCommands .rich).contains (textOf name) || (ownCommands .rich).contains (textOf name) then
      hands.words false words
    else
      complain (name ++ bytesOf ": not a shell builtin")
      return 1

/-! ### Programs that were looked for -/

/-- Writes the programs that were looked for. -/
def listFound : Acting Nat := do
  let s ← shell
  let listed := s.found.mergeSort fun a b => foundPlace s.dialect a.1 ≤ foundPlace s.dialect b.1
  match s.dialect with
  | .common => writeOut (endedLines (listed.map fun entry => entry.2.1))
  | .rich =>
    if listed.isEmpty then writeOut (bytesOf "hash: hash table empty\n")
    else
      writeOut (bytesOf "hits\tcommand\n" ++ listed.flatMap fun entry =>
        padStart 4 (digitsOf entry.2.2) ++ '\t' :: entry.2.1 ++ ['\n'])

/-- Looks for the programs of names. -/
def lookForPrograms (args : List Bytes) : Acting Nat := do
  let rich : Bool := (← shell).dialect = .rich
  let (flags, names) ← if rich then flagsOf "dlrp:t" args
    else match args with
      | ['-', 'r'] :: rest => pure ([('r', [])], rest)
      | args => pure ([], args)
  if hasFlag flags 'r' then
    changeShell fun s => { s with found := [] }
    if names.isEmpty then return 0
  if names.isEmpty then return ← listFound
  let results ← names.mapM fun name => do
    match ← knownAs name with
    | .program path =>
      if hasFlag flags 't' then put 1 (path ++ ['\n'])
      else
        remember name path false
        return true
    | .nothing =>
      complain (name ++ bytesOf ": not found")
      return false
    | _ => return true
  return if results.all id then 0 else 1

/-! ### Short names -/

/-- Gives texts short names, or writes them. -/
def nameTexts (args : List Bytes) : Acting Nat := do
  let known := (← shell).aliases
  let rich : Bool := (← shell).dialect = .rich
  let (flags, args) ← if rich then flagsOf "p" args else pure ([], args)
  let shown (entry : Bytes × Bytes) : Bytes :=
    if rich then bytesOf "alias " ++ entry.1 ++ '=' :: singleQuoted entry.2 ++ ['\n']
    else entry.1 ++ '=' :: inSingleQuotes entry.2 ++ ['\n']
  if args.isEmpty || hasFlag flags 'p' then
    writeOut ((if rich then known.mergeSort fun a b => bytesBefore a.1 b.1 else known).flatMap shown)
  else
    let mut status := 0
    for arg in args do
      let name := arg.takeWhile (· ≠ '=')
      if name.length < arg.length && !name.isEmpty then
        changeShell fun s => { s with
          aliases := (name, arg.drop (name.length + 1)) :: s.aliases.filter fun entry => entry.1 ≠ name }
      else
        match entryOf? arg known with
        | some text =>
          let _ ← writeOut (shown (arg, text))
        | none =>
          if rich then complain (arg ++ bytesOf ": not found")
          else
            let _ ← put 2 (bytesOf "alias: " ++ arg ++ bytesOf " not found\n")
          status := 1
    return status

/-- Takes short names away. -/
def unnameTexts (args : List Bytes) : Acting Nat := do
  let mut status := 0
  if args.isEmpty && (← shell).dialect = .rich then tellUsage
  for arg in args do
    if arg = "-a".toList then changeShell fun s => { s with aliases := [] }
    else if (entryOf? arg (← shell).aliases).isSome then
      changeShell fun s => { s with aliases := s.aliases.filter fun entry => entry.1 ≠ arg }
    else
      if (← shell).dialect = .rich then complain (arg ++ bytesOf ": not found")
      else
        let _ ← put 2 (bytesOf "unalias: " ++ arg ++ bytesOf " not found\n")
      status := 1
  return status

/-! ### Lists of commands -/

/-- Writes the commands of the shell, or looks whether names are such commands. -/
def listEnabled (args : List Bytes) : Acting Nat := do
  let (flags, names) ← flagsOf "adnpsf:" args
  let own := ((specialCommands .rich ++ ownCommands .rich).map bytesOf).mergeSort bytesBefore
  if names.isEmpty then
    if hasFlag flags 'n' then return 0
    else writeOut (own.flatMap fun name => bytesOf "enable " ++ name ++ ['\n'])
  else
    let results ← names.mapM fun name => do
      if own.contains name then return true
      else
        complain (name ++ bytesOf ": not a shell builtin")
        return false
    return if results.all id then 0 else 1

/-- Writes the words of a kind that start with a text. -/
def completions (args : List Bytes) : Acting Nat := do
  let (flags, words) ← flagsOf "abcdefgjksuvo:A:G:W:F:C:X:P:S:" args
  let s ← shell
  let kind := textOf ((flagValue? flags 'A').getD [])
  let isKind (letter : Char) (name : String) : Bool := hasFlag flags letter || kind = name
  let given := ((flagValue? flags 'W').map wordsIn).getD []
  let all := given
    ++ (if isKind 'k' "keyword" then (keywords .rich).map bytesOf else [])
    ++ (if isKind 'b' "builtin" then
      ((specialCommands .rich ++ ownCommands .rich).map bytesOf).mergeSort bytesBefore else [])
    ++ (if kind = "function" then (s.functions.map (·.1)).mergeSort bytesBefore else [])
    ++ (if isKind 'a' "alias" then (s.aliases.map (·.1)).mergeSort bytesBefore else [])
    ++ (if isKind 'v' "variable" then (s.vars.map (·.1)).mergeSort bytesBefore else [])
  let found := all.filter (words.headD []).isPrefixOf
  let _ ← put 1 (endedLines found)
  return if found.isEmpty then 1 else 0
where
  /-- The words of a text. -/
  wordsIn (text : Bytes) : List Bytes :=
    (text.splitBy fun a b => isSpaceByte a == isSpaceByte b).filter fun word => !(word.all isSpaceByte)

end FormatChain.Shell
