import FormatChain.Process.Options
import FormatChain.Tools.Writing

/-!
# Commands that start others

Commands that start another one in other circumstances.

* `env`, `timeout`, `nohup`, `nice`, `setsid`, `stdbuf` : other circumstances.
* `which` : where programs are.
-/

namespace FormatChain.Tools

open FormatChain.Process

/-- Starts a command, and says why it cannot be started if it cannot. -/
def startOr (start : Starter) (inner : Job) (refusal : SystemError → Running Unit) :
    Running ExitStatus := do
  match ← startNamed start true inner with
  | .ok status => return status
  | .error e =>
    refusal e
    return .code (if e = .notFound || e = .notADirectory then 127 else 126)

/-! ## Other circumstances -/

/-- Sets a variable. -/
def withSetting (vars : List (Bytes × Bytes)) (name value : Bytes) : List (Bytes × Bytes) :=
  if vars.any fun entry => entry.1 = name then
    vars.map fun entry => if entry.1 = name then (name, value) else entry
  else vars ++ [(name, value)]

/-- Whether an argument sets a variable. -/
def isSetting (arg : Bytes) : Bool := arg.contains '='

/-- Where a reader of split texts is. -/
inductive SplitPlace where
  /-- Between words. -/
  | between
  /-- In a word. -/
  | inside
  /-- Between quotes in a word. -/
  | quoted (quote : Char)
  deriving DecidableEq

/-- What is wrong with a text that is to be split. -/
abbrev SplitFault := String

/-- The byte that an escape stands for in a text that is split; none if it stands for none. -/
def splitEscape? (c : Char) : Option Char :=
  match c with
  | 'f' => some '\x0c'
  | 'n' => some '\n'
  | 'r' => some '\r'
  | 't' => some '\t'
  | 'v' => some '\x0b'
  | _ => if ['"', '#', '$', '\'', '\\'].contains c then some c else none

/-- The words that a text is split into, in at most so many steps. Quotes keep blanks in a word, variables
in braces stand for their values, and a number sign before a word ends all. -/
def splitText (value? : Bytes → Option Bytes) :
    Nat → SplitPlace → Bytes → List Bytes → Bytes → Except SplitFault (List Bytes)
  | 0, _, _, done, _ => .ok done.reverse
  | _, place, current, done, [] =>
    match place with
    | .quoted _ => .error "no terminating quote in -S string"
    | .inside => .ok (current.reverse :: done).reverse
    | .between => .ok done.reverse
  | steps + 1, place, current, done, '\\' :: c :: rest =>
    let inSingle := place = .quoted '\''
    if inSingle && c != '\\' && c != '\'' then
      splitText value? steps place (c :: '\\' :: current) done rest
    else if c = '_' then
      if place = .quoted '"' then splitText value? steps place (' ' :: current) done rest
      else if place = .between then splitText value? steps place current done rest
      else splitText value? steps .between [] (current.reverse :: done) rest
    else if c = 'c' then
      if place = .quoted '"' then .error "'\\c' must not appear in double-quoted -S string"
      else if place = .between then .ok done.reverse
      else .ok (current.reverse :: done).reverse
    else
      match splitEscape? c with
      | some byte =>
        let place := if place = .between then .inside else place
        splitText value? steps place (byte :: current) done rest
      | none => .error s!"invalid sequence '\\{c}' in -S"
  | _ + 1, _, _, _, ['\\'] => .error "invalid backslash at end of string in -S"
  | steps + 1, place, current, done, '$' :: rest =>
    if place = .quoted '\'' then splitText value? steps place ('$' :: current) done rest
    else
      let name := (rest.drop 1).takeWhile fun c => c.isAlphanum || c = '_'
      if rest.head? = some '\x7b' && !name.isEmpty && (rest.drop (name.length + 1)).head? = some '\x7d' then
        let rest := rest.drop (name.length + 2)
        match value? name with
        | some value =>
          let place := if place = .between then .inside else place
          splitText value? steps place (value.reverse ++ current) done rest
        | none => splitText value? steps place current done rest
      else
        let unread := textOf ('$' :: rest)
        .error ("only $\x7bVARNAME\x7d expansion is supported, error at: " ++ unread)
  | steps + 1, place, current, done, c :: rest =>
    match place with
    | .quoted q =>
      if c = q then splitText value? steps .inside current done rest
      else splitText value? steps place (c :: current) done rest
    | _ =>
      if c = '\'' || c = '"' then splitText value? steps (.quoted c) current done rest
      else if isSpaceByte c then
        if place = .between then splitText value? steps place current done rest
        else splitText value? steps .between [] (current.reverse :: done) rest
      else if c = '#' && place = .between then .ok done.reverse
      else splitText value? steps .inside (c :: current) done rest

/-- The options of the command that sets variables. -/
def envRules : OptionRules :=
  { letters := "iu:0vC:S:", first := true
    words := [("ignore-environment", 'i'), ("unset", 'u'), ("null", '0'), ("chdir", 'C'),
      ("split-string", 'S'), ("debug", 'v')] }

/-- Arguments in which texts that are to be split are split, in at most so many steps. -/
def splitArguments (value? : Bytes → Option Bytes) : Nat → List Bytes → Except SplitFault (List Bytes)
  | 0, args => .ok args
  | _, [] => .ok []
  | steps + 1, arg :: rest =>
    let split (text : Bytes) (rest : List Bytes) : Except SplitFault (List Bytes) := do
      splitArguments value? steps ((← splitText value? (text.length + 1) .between [] [] text) ++ rest)
    match arg with
    | '-' :: 'S' :: text =>
      if text.isEmpty then
        match rest with
        | text :: rest => split text rest
        | [] => .ok [arg]
      else split text rest
    | '-' :: 'v' :: 'S' :: text => do return "-v".toList :: (← split text rest)
    | '-' :: _ :: _ =>
      let whole := "--split-string=".toList
      if whole.isPrefixOf arg then split (arg.drop whole.length) rest
      else do
        let takesNext := ["-u".toList, "-C".toList, "--unset".toList, "--chdir".toList].contains arg
        let taken := if takesNext then rest.take 1 else []
        return arg :: taken ++ (← splitArguments value? steps (rest.drop taken.length))
    | _ => .ok (arg :: rest)

/-- Starts a command with other variables, or writes them. -/
def env (start : Starter) : Program := fun j => do
  let args := match j.args with
    | ['-'] :: rest => "-i".toList :: rest
    | args => args
  match splitArguments j.setting? (args.length + 40) args with
  | .error fault => j.fail 125 fault
  | .ok args =>
    Job.withOptions { j with args } 125 envRules fun given operands => do
      let vars := if has given 'i' then [] else j.vars
      let removed := (given.filter fun g : Given => g.letter == 'u').map Given.value
      let vars := vars.filter fun entry => !removed.contains entry.1
      let settings := operands.takeWhile isSetting
      let vars := settings.foldl
        (fun all arg =>
          let name := arg.takeWhile (· ≠ '=')
          withSetting all name (arg.drop (name.length + 1)))
        vars
      match removed.find? fun name => name.isEmpty || name.contains '=', operands.drop settings.length with
      | some name, _ => j.fail 125 s!"cannot unset {quoted name}: Invalid argument"
      | none, [] =>
        if has given 'C' then j.misused 125 "must specify command with --chdir (-C)"
        else
          let mark := if has given '0' then '\x00' else '\n'
          Running.write (vars.flatMap fun entry => entry.1 ++ '=' :: entry.2 ++ [mark])
          return success
      | none, name :: rest =>
        if has given '0' then j.misused 125 "cannot specify --null (-0) with command"
        else
          let disk := (← get).disk
          let found : Except SystemError Path := match valueOf? given 'C' with
            | some dir => disk.locateDirectory j.cwd (pathOf dir)
            | none => .ok j.cwd
          match found with
          | .error e =>
            let dir := shownValue given 'C'
            j.fail 125 s!"cannot change directory to '{dir}': {e.words}"
          | .ok cwd =>
            startOr start { name, args := rest, cwd, vars } fun e =>
              j.complain s!"{quoted name}: {e.words}"

/-- The number of the signal that a text names. -/
def signalNumber? (text : Bytes) : Option Nat :=
  match natOf? text with
  | some n => if n ≤ 64 then some n else none
  | none =>
    let name := (textOf text).toUpper
    let name := if name.startsWith "SIG" then name else "SIG" ++ name
    if name = "SIGEXIT" then some 0
    else (List.range 32).find? fun n => 0 < n && ExitStatus.signalName n = name

/-- Starts a command that may take only so long. -/
def timeout (start : Starter) : Program := fun j =>
  let rules : OptionRules := {
    letters := "k:s:vfp", first := true
    words := [("kill-after", 'k'), ("signal", 's'), ("verbose", 'v'), ("preserve-status", 'p'),
      ("foreground", 'f')] }
  j.withOptions 125 rules fun given operands => do
    let refused? : Option String := given.findSome? fun g =>
      if g.letter = 's' && (signalNumber? g.value).isNone then some s!"{quoted g.value}: invalid signal"
      else if g.letter = 'k' && (duration? g.value).isNone then
        some s!"invalid time interval {quoted g.value}"
      else none
    match refused?, operands with
    | some words, _ => j.misused 125 words
    | none, limit :: name :: rest =>
      match duration? limit with
      | none => j.misused 125 s!"invalid time interval {quoted limit}"
      | some milliseconds =>
        let before := (← get).slept
        let status ← startOr start { j with name, args := rest } fun e =>
          j.complain s!"failed to run command {quoted name}: {e.words}"
        let w ← get
        if milliseconds > 0 && (w.endless || milliseconds ≤ w.slept - before) then
          set { w with slept := before + milliseconds, endless := false }
          let signal := ((valueOf? given 's').bind signalNumber?).getD 15
          return if signal = 9 then .signal 9 else if has given 'p' then .code (128 + signal) else .code 124
        else return status
    | none, _ =>
      Running.complain j.hint
      return .code 125

/-- Starts a command as it is, after options of which some have a value. -/
def startPlainly (letters : String) (words : List (String × Char)) (wrong : Nat)
    (said : Bytes → SystemError → String) (start : Starter) : Program := fun j =>
  j.withOptions wrong { letters, words, first := true } fun _ operands => do
    match operands with
    | [] => j.misused wrong "missing operand"
    | name :: rest =>
      startOr start { j with name, args := rest } fun e => j.complain (said name e)

/-- Starts a command that a lost connection does not end. -/
def nohup : Starter → Program :=
  startPlainly "" [] 125 fun name e => s!"failed to run command {quoted name}: {e.words}"

/-- Starts a command that lets others go first. -/
def nice (start : Starter) : Program := fun j => do
  let args := j.args.map fun arg => match arg with
    | '-' :: c :: digits => if c.isDigit then "-n".toList ++ c :: digits else arg
    | _ => arg
  Job.withOptions { j with args } 125 { letters := "n:", words := [("adjustment", 'n')], first := true }
    fun given operands => do
      let asked := (valueOf? given 'n').getD ['1', '0']
      let digits := match asked with
        | '-' :: digits => digits
        | '+' :: digits => digits
        | digits => digits
      match natOf? digits, operands with
      | none, _ => j.fail 125 s!"invalid adjustment {quoted asked}"
      | some _, [] =>
        if given.isEmpty then
          Running.writeLine ['0']
          return success
        else j.misused 125 "a command must be given with an adjustment"
      | some _, name :: rest =>
        startOr start { j with name, args := rest } fun e => j.complain s!"{quoted name}: {e.words}"

/-- Starts a command in a session of its own. -/
def setsid : Starter → Program :=
  startPlainly "cfw" [("ctty", 'c'), ("fork", 'f'), ("wait", 'w')] 1
    fun name e => s!"failed to execute {textOf name}: {e.words}"

/-- Starts a command with other buffers. -/
def stdbuf : Starter → Program :=
  startPlainly "i:o:e:" [("input", 'i'), ("output", 'o'), ("error", 'e')] 125
    fun name e => s!"failed to run command {quoted name}: {e.words}"

/-! ## Where programs are -/

/-- Writes where programs are. -/
def which : Program := fun j => do
  let disk := (← get).disk
  let all := j.args.contains "-a".toList
  let names := j.args.filter fun arg => arg.head? ≠ some '-'
  let directories := (j.setting? "PATH".toList).getD usualPath
  let isThere (path : Bytes) : Bool :=
    match disk.find j.cwd (pathOf path) with
    | .ok (.file place) => disk.executable.any (·.same place)
    | _ => false
  let found := names.map fun name =>
    let candidates := if name.contains '/' then [name]
      else (splitAtByte ':' directories).map fun dir => dir ++ '/' :: name
    let there := candidates.filter isThere
    if all then there else there.take 1
  for path in found.flatten do
    Running.writeLine path
  return statusOf (!names.isEmpty && found.all fun paths => !paths.isEmpty)

end FormatChain.Tools
