import FormatChain.Shell.Builtin.Naming

/-!
# Commands for values

Some commands set the options of the shell, its positions and its variables.

* `setOptions` : settings and arguments.
* `setShopts` : the settings of the rich language that have no letters.
* `shiftArgs` : leaving arguments out.
* `readLine`, `readRows` : what comes in.
* `nextOption` : options.
* `letSums` : sums.
-/

/-!
## Commands for settings

The commands of a shell that turn its settings on and off, and set its arguments.
-/

namespace FormatChain.Shell

open FormatChain.Process

/-- Turns a setting on or off. -/
def turn (letter : Char) (on : Bool) : Acting Unit := changeShell fun s =>
  let others := s.settings.filter (· ≠ letter)
  { s with settings := if on then others ++ [letter] else others }

/-- A setting with its state as lists show it. -/
def stateShown (dialect : Dialect) (name : String) (isOn : Bool) : Bytes :=
  let state := if isOn then "on" else "off"
  match dialect with
  | .common => padEnd 16 (bytesOf name) ++ bytesOf state ++ ['\n']
  | .rich => padEnd 15 (bytesOf name) ++ '\t' :: bytesOf state ++ ['\n']

/-- Writes all settings, as their states or as the commands that turn them so. -/
def listSettings (states : Bool) : Acting Nat := do
  let s ← shell
  if states && s.dialect = .common then
    let _ ← put 1 (bytesOf "Current option settings\n")
  (settingNames s.dialect).forM fun (name, letter) => do
    let isOn := s.settings.contains letter
    let sign := if isOn then "-" else "+"
    let _ ← put 1 (if states then stateShown s.dialect name isOn else bytesOf s!"set {sign}o {name}\n")
  return 0

/-- Turns the setting of a name on or off. -/
def turnNamed (name : Bytes) (on : Bool) : Acting Unit := do
  let dialect := (← shell).dialect
  match (settingNames dialect).find? fun entry => entry.1.toList = name with
  | some (_, letter) => turn letter on
  | none =>
    match dialect with
    | .common => failWith 2 (bytesOf "Illegal option -o " ++ name)
    | .rich => failWith 2 (name ++ bytesOf ": invalid option name")

/-- The letters of settings. -/
def settingLetters : Dialect → List Char
  | .common => ((settingNames .common).map (·.2)).filter Char.isAlpha
  | .rich => "abefhkmnptuvxBCEHPT".toList

/-- Turns the settings of letters on or off. Tells whether a name follows. -/
def turnLetters (on : Bool) (letters : Bytes) : Acting Bool := do
  let dialect := (← shell).dialect
  let named ← letters.mapM fun c => do
    if c = 'o' then return true
    if (settingLetters dialect).contains c then
      turn c on
      return false
    else
      match dialect with
      | .common => failWith 2 (bytesOf "Illegal option -" ++ [c])
      | .rich => misuse ((if on then '-' else '+') :: c :: bytesOf ": invalid option")
  return named.any id

/-- Sets settings and arguments. -/
def setOptionsFrom : List Bytes → Acting Nat
  | [] => return 0
  | arg :: rest => do
    match arg with
    | ['-', '-'] =>
      changeShell fun s => { s with args := rest }
      return 0
    | ['-'] =>
      turn 'x' false
      turn 'v' false
      if !rest.isEmpty then changeShell fun s => { s with args := rest }
      return 0
    | sign :: letter :: letters =>
      if sign = '-' || sign = '+' then
        let on : Bool := sign = '-'
        if ← turnLetters on (letter :: letters) then
          match rest with
          | name :: more =>
            turnNamed name on
            setOptionsFrom more
          | [] => listSettings on
        else setOptionsFrom rest
      else
        changeShell fun s => { s with args := arg :: rest }
        return 0
    | _ =>
      changeShell fun s => { s with args := arg :: rest }
      return 0

/-- Sets settings and arguments, or writes all names with their values. -/
def setOptions (args : List Bytes) : Acting Nat := do
  if args.isEmpty then
    match (← shell).dialect with
    | .common => listNames [] fun v => v.text?.isSome
    | .rich => listValues
  else setOptionsFrom args

/-! ### Settings without letters -/

/-- The settings of the rich language that have no letters, in order, and whether they are on at the
start. -/
def shoptNames : List (String × Bool) :=
  [("autocd", false), ("assoc_expand_once", false), ("cdable_vars", false), ("cdspell", false),
    ("checkhash", false), ("checkjobs", false), ("checkwinsize", true), ("cmdhist", true),
    ("compat31", false), ("compat32", false), ("compat40", false), ("compat41", false),
    ("compat42", false), ("compat43", false), ("compat44", false), ("complete_fullquote", true),
    ("direxpand", false), ("dirspell", false), ("dotglob", false), ("execfail", false),
    ("expand_aliases", false), ("extdebug", false), ("extglob", false), ("extquote", true),
    ("failglob", false), ("force_fignore", true), ("globasciiranges", true), ("globskipdots", true),
    ("globstar", false), ("gnu_errfmt", false), ("histappend", false), ("histreedit", false),
    ("histverify", false), ("hostcomplete", true), ("huponexit", false), ("inherit_errexit", false),
    ("interactive_comments", true), ("lastpipe", false), ("lithist", false), ("localvar_inherit", false),
    ("localvar_unset", false), ("login_shell", false), ("mailwarn", false),
    ("no_empty_cmd_completion", false), ("nocaseglob", false), ("nocasematch", false),
    ("noexpand_translation", false), ("nullglob", false), ("patsub_replacement", true), ("progcomp", true),
    ("progcomp_alias", false), ("promptvars", true), ("restricted_shell", false), ("shift_verbose", false),
    ("sourcepath", true), ("varredir_close", false), ("xpg_echo", false)]

/-- The names of the settings without letters that are on at the start. -/
def startShopts : List String := (shoptNames.filter (·.2)).map (·.1)

/-- Writes states of settings that have no letters. -/
def showShopts (flags : List (Char × Bytes)) (names : List String) : Acting Nat := do
  let s ← shell
  let isOn (name : String) : Bool :=
    if hasFlag flags 'o' then
      ((settingNames .rich).find? fun entry => entry.1 = name).any fun entry => s.settings.contains entry.2
    else s.options.contains name
  let command (name : String) : String :=
    if hasFlag flags 'o' then (if isOn name then "set -o " else "set +o ") ++ name ++ "\n"
    else (if isOn name then "shopt -s " else "shopt -u ") ++ name ++ "\n"
  names.forM fun name => do
    let _ ← put 1 (if hasFlag flags 'p' then bytesOf (command name)
      else stateShown .rich name (isOn name))
  return if names.all isOn then 0 else 1

/-- Turns settings that have no letters on or off, or writes their states. -/
def setShopts (args : List Bytes) : Acting Nat := do
  let (flags, names) ← flagsOf "pqsuo" args
  let named := hasFlag flags 'o'
  let known := if named then (settingNames .rich).map (·.1) else shoptNames.map (·.1)
  let words := if named then ": invalid option name" else ": invalid shell option name"
  if hasFlag flags 's' && hasFlag flags 'u' then
    complainText "cannot set and unset shell options simultaneously"
    return 1
  let good ← names.filterMapM fun name => do
    if known.contains (textOf name) then return some (textOf name)
    else
      complain (name ++ bytesOf words)
      return none
  let s ← shell
  let turns := hasFlag flags 's' || hasFlag flags 'u'
  let status := if good.length = names.length then 0 else 1
  if names.isEmpty then
    let isOn (name : String) : Bool :=
      if named then
        ((settingNames .rich).find? fun entry => entry.1 = name).any fun entry => s.settings.contains entry.2
      else s.options.contains name
    let chosen := known.filter fun name => !turns || isOn name = hasFlag flags 's'
    if !hasFlag flags 'q' then
      let _ ← showShopts flags chosen
    return 0
  else if turns then
    good.forM fun name => do
      if named then turnNamed (bytesOf name) (hasFlag flags 's')
      else
        changeShell fun s =>
          let others := s.options.filter (· ≠ name)
          { s with options := if hasFlag flags 's' then name :: others else others }
    return status
  else if hasFlag flags 'q' then
    let on := if named then good.filter fun name =>
        ((settingNames .rich).find? fun entry => entry.1 = name).any fun entry => s.settings.contains entry.2
      else good.filter s.options.contains
    return if on.length = names.length then 0 else 1
  else
    let shown ← showShopts flags good
    return max status shown

/-! ### Arguments -/

/-- The number that an argument is. -/
def numberArgument (arg : Bytes) : Acting Nat := do
  match natOf? arg with
  | some n => return n
  | none => fail s!"Illegal number: {textOf arg}"

/-- Leaves out arguments at the start. -/
def shiftArgs (args : List Bytes) : Acting Nat := do
  let s ← shell
  match s.dialect with
  | .common =>
    let n ← match args with
      | arg :: _ => numberArgument arg
      | [] => pure 1
    if s.args.length < n then fail "can't shift that many"
    changeShell fun s => { s with args := s.args.drop n }
    return 0
  | .rich =>
    let args := if args.head? = some ['-', '-'] then args.drop 1 else args
    match args with
    | _ :: _ :: _ =>
      complainText "too many arguments"
      setStatus 1
      throw .leave
    | [arg] =>
      match intOf? arg with
      | none =>
        complain (arg ++ bytesOf ": numeric argument required")
        return 1
      | some n =>
        if n < 0 then
          complain (arg ++ bytesOf ": shift count out of range")
          return 1
        else if (s.args.length : Int) < n then return 1
        else
          changeShell fun s => { s with args := s.args.drop n.toNat }
          return 0
    | [] =>
      if s.args.isEmpty then return 1
      changeShell fun s => { s with args := s.args.drop 1 }
      return 0

end FormatChain.Shell

/-!
## Commands for values

The commands of a shell that read lines and options into names, and those that compute sums.
-/

namespace FormatChain.Shell

open FormatChain.Process

/-! ### What comes in -/

/-- A line of what comes in, with its quotes, given what was read before, last first: the line,
whether it has an end, and the rest. -/
def takeLine (raw : Bool) (mark : Char) (done : List Mark) : Bytes → List Mark × Bool × Bytes
  | [] => (done.reverse, false, [])
  | '\\' :: c :: rest =>
    if raw then
      takeLine raw mark (⟨'\\', false⟩ :: done) (c :: rest)
    else if c = '\n' then takeLine raw mark done rest
    else takeLine raw mark (⟨c, true⟩ :: done) rest
  | c :: rest =>
    if c = mark then (done.reverse, true, rest)
    else if c = '\x00' then takeLine raw mark done rest
    else if c = '\\' && !raw then takeLine raw mark done rest
    else takeLine raw mark (⟨c, false⟩ :: done) rest
termination_by bytes => bytes.length

/-- Whether a byte parts words. -/
def isOneOf (bytes : Bytes) (mark : Mark) : Bool := !mark.quoted && bytes.contains mark.byte

/-- The words of a line, at most so many, the last of which is all that is left. -/
def wordsOfLine (blanks others : Bytes) : Nat → List Mark → List Bytes
  | 0, _ => []
  | most + 1, line =>
    let line := line.dropWhile (isOneOf blanks)
    if line.isEmpty then []
    else
      let word := line.takeWhile fun mark => !isOneOf (blanks ++ others) mark
      let after := line.drop word.length
      if most = 0 then
        let parting := after.takeWhile (isOneOf (blanks ++ others))
        if parting.length = after.length && (after.filter (isOneOf others)).length ≤ 1 then
          [bytesOfMarks word]
        else [bytesOfMarks (line.reverse.dropWhile (isOneOf blanks)).reverse]
      else
        let after := after.dropWhile (isOneOf blanks)
        let after := match after with
          | mark :: rest => if isOneOf others mark then rest else after
          | [] => []
        bytesOfMarks word :: wordsOfLine blanks others most after

/-- Gives a name, which may be that of an element, a value. -/
def giveNamed (name bytes : Bytes) : Acting Unit := do
  match (← shell).dialect with
  | .common => setValue name bytes
  | .rich =>
    let n := NameText.read .rich name
    giveValue n.name n.index false bytes

/-- Gives names the words of a line. -/
def giveWords (names : List Bytes) (line : List Mark) : Acting Unit := do
  let separators ← separators
  let blanks := separators.filter isSpaceByte
  let others := separators.filter fun c => !isSpaceByte c
  let words := wordsOfLine blanks others names.length line
  (names.zip (words ++ List.replicate names.length [])).forM fun (name, word) => giveNamed name word

/-- How a line is read. -/
structure LineRules where
  /-- Whether backslashes stand for themselves. -/
  raw : Bool := false
  /-- The byte that ends the line. -/
  mark : Char := '\n'
  /-- The array that gets the words. -/
  array : Option Bytes := none
  /-- The stream. -/
  stream : Nat := 0
  /-- How many bytes are read at most. -/
  most : Option Nat := none
  /-- Whether nothing but the number of bytes ends the line, which is one word. -/
  whole : Bool := false
  deriving Inhabited

/-- The rules that options are in the common language, and the names after them. -/
def commonLineRules (rules : LineRules) : Nat → List Bytes → Acting (LineRules × List Bytes)
  | 0, args => return (rules, args)
  | _, [] => return (rules, [])
  | steps + 1, arg :: rest => do
    match arg with
    | ['-', '-'] => return (rules, rest)
    | '-' :: 'r' :: more =>
      if more.isEmpty then commonLineRules { rules with raw := true } steps rest
      else commonLineRules { rules with raw := true } steps (('-' :: more) :: rest)
    | '-' :: 'p' :: more => commonLineRules rules steps (if more.isEmpty then rest.drop 1 else rest)
    | '-' :: letter :: _ => failWith 2 (bytesOf "Illegal option -" ++ [letter])
    | _ => return (rules, arg :: rest)

/-- Refuses a value of an option. -/
def refuseFlag {α : Type} (value : Bytes) (words : String) : Acting α :=
  failWith 1 (value ++ bytesOf (": " ++ words))

/-- The stream that an option names. -/
def flagStream (flags : List (Char × Bytes)) : Acting Nat := do
  match flagValue? flags 'u' with
  | none => return 0
  | some text =>
    match natOf? text with
    | none => refuseFlag text "invalid file descriptor specification"
    | some n =>
      if (← streamAt? n).isNone then refuseFlag text "invalid file descriptor: Bad file descriptor"
      return n

/-- The number that an option gives. -/
def flagNumber? (flags : List (Char × Bytes)) (letter : Char) (words : String) : Acting (Option Nat) := do
  match flagValue? flags letter with
  | none => return none
  | some text =>
    match natOf? text with
    | some n => return some n
    | none => refuseFlag text words

/-- Whether a text is a span of time. -/
def isSpan (text : Bytes) : Bool :=
  let after := text.dropWhile Char.isDigit
  !text.isEmpty && match after with
    | [] => true
    | '.' :: rest => rest.all Char.isDigit
    | _ => false

/-- The rules that options are in the rich language, the names after them, and whether it is only looked
whether something comes in. -/
def richLineRules (args : List Bytes) : Acting (LineRules × List Bytes × Bool) := do
  let (flags, names) ← flagsOf "ersa:d:i:n:N:p:t:u:" args
  let some_ ← flagNumber? flags 'n' "invalid number"
  let all ← flagNumber? flags 'N' "invalid number"
  match flagValue? flags 't' with
  | some text => if !isSpan text then refuseFlag text "invalid timeout specification"
  | none => pure ()
  let stream ← flagStream flags
  let mark := match flagValue? flags 'd' with
    | some text => text.headD '\x00'
    | none => '\n'
  let rules : LineRules := {
    raw := hasFlag flags 'r', array := flagValue? flags 'a', stream, mark
    most := if all.isSome then all else some_, whole := all.isSome }
  return (rules, names, flagValue? flags 't' = some ['0'])

/-- Reads a line into names. -/
def readLine (args : List Bytes) : Acting Nat := do
  let rich : Bool := (← shell).dialect = .rich
  let (rules, names, looks) ← if rich then richLineRules args
    else do
      let (rules, names) ← commonLineRules {} (args.length + 100) args
      pure (rules, names, false)
  if names.isEmpty && !rich then fail "arg count"
  let targets := names ++ rules.array.toList
  let dialect := (← shell).dialect
  let good ← targets.allM fun name => checkName (NameText.read dialect name).name name
  if !good then return 1
  if looks then return 0
  match ← unreadOf? rules.stream with
  | none => return 1
  | some bytes =>
    let shown := match rules.most with
      | some n => bytes.take n
      | none => bytes
    let (line, whole, rest) :=
      if rules.whole then (openMarks shown, true, []) else takeLine rules.raw rules.mark [] shown
    let taken := shown.length - rest.length
    setUnread rules.stream (bytes.drop taken)
    let whole := (whole && !rules.whole) || rules.most = some shown.length
    match rules.array with
    | some name =>
      let separators ← separators
      let words := wordsOfLine (separators.filter isSpaceByte)
        (separators.filter fun c => !isSpaceByte c) (line.length + 1) line
      storeVariable name (.ofList words)
    | none =>
      if names.isEmpty then setValue "REPLY".toList (bytesOfMarks line)
      else if rules.whole then
        (names.zip (bytesOfMarks line :: List.replicate names.length [])).forM fun (name, word) =>
          giveNamed name word
      else giveWords names line
    return if whole then 0 else 1

/-- The rows that a byte ends, with it, and what follows so many of them, in at most so many steps. -/
def rowsOf (mark : Char) (most : Option Nat) : Nat → Bytes → List Bytes × Bytes
  | 0, rest => ([], rest)
  | _, [] => ([], [])
  | steps + 1, bytes =>
    if most = some 0 then ([], bytes)
    else
      let body := bytes.takeWhile (· ≠ mark)
      let ended := bytes.drop body.length
      let row := body ++ ended.take 1
      let (others, rest) := rowsOf mark (most.map (· - 1)) steps (ended.drop 1)
      (row :: others, rest)

/-- Reads lines into an array. -/
def readRows (args : List Bytes) : Acting Nat := do
  let (flags, names) ← flagsOf "d:u:n:O:tC:c:s:" args
  let most ← flagNumber? flags 'n' "invalid line count"
  let skipped ← flagNumber? flags 's' "invalid line count"
  let origin ← flagNumber? flags 'O' "invalid array origin"
  let stream ← flagStream flags
  let name := names.headD "MAPFILE".toList
  if !(← checkName name name) then return 1
  let mark := match flagValue? flags 'd' with
    | some text => text.headD '\x00'
    | none => '\n'
  let bytes := (← unreadOf? stream).getD []
  let (_, bytes) := match skipped with
    | some n => rowsOf mark (some n) (bytes.length + 1) bytes
    | none => ([], bytes)
  let most := if most = some 0 then none else most
  let (rows, rest) := rowsOf mark most (bytes.length + 1) bytes
  setUnread stream rest
  let rows := if hasFlag flags 't' then rows.map fun row =>
      if row.getLast? = some mark then row.dropLast else row
    else rows
  let v ← variableOf name
  let before := if origin.isSome then v.listed else []
  let start := origin.getD 0
  let elements := rows.zipIdx.foldl (fun all (row, n) => setEntry (digitsOf (start + n)) row all) before
  refuseConstant name
  storeVariable name { v with value := none, elements := some elements, given := true }
  return 0

/-! ### Options -/

/-- Whether a letter is among the options, and whether it has a value. -/
def optionRule? (c : Char) : Bytes → Option Bool
  | [] => none
  | d :: ':' :: rest => if c = d then some true else optionRule? c rest
  | d :: rest => if c = d then some false else optionRule? c rest

/-- Reads the next option into a name. -/
def nextOption (args : List Bytes) : Acting Nat := do
  match args with
  | options :: name :: others =>
    let s ← shell
    let all := if others.isEmpty then s.args else others
    let next := ((((← valueOf? "OPTIND".toList).bind natOf?).getD 1) - 1)
    let silent := options.head? = some ':'
    let known := if silent then options.drop 1 else options
    let current := if next = 0 then [] else all.getD (next - 1) []
    let inside := if s.optionPlace = 0 then [] else current.drop s.optionPlace
    let record (next place : Nat) (letter : Char) (done : Bool) : Acting Nat := do
      storeVariable "OPTIND".toList
        { (← variableOf "OPTIND".toList) with value := some (digitsOf (next + 1)) }
      setValue name [letter]
      changeShell fun s => { s with optionPlace := place }
      return if done then 1 else 0
    let forget : Acting Unit := unsetValue "OPTARG".toList
    let found : Option (Nat × Nat × Bytes) :=
      if !inside.isEmpty then some (next, s.optionPlace, inside)
      else
        match all[next]? with
        | some ('-' :: c :: more) =>
          if c = '-' && more.isEmpty then none else some (next + 1, 1, c :: more)
        | _ => none
    match found with
    | none =>
      let next := if all[next]? = some ['-', '-'] then next + 1 else next
      record next 0 '?' true
    | some (next, place, letters) =>
      let c := letters.headD '?'
      let more := letters.drop 1
      match optionRule? c known with
      | none =>
        if silent then setValue "OPTARG".toList [c]
        else
          let words ← worded "Illegal option -" "illegal option -- "
          let start ← if (← shell).dialect = .rich then do pure (s.name ++ [':', ' ']) else pure []
          let _ ← put 2 (start ++ bytesOf words ++ [c, '\n'])
          forget
        record next (if more.isEmpty then 0 else place + 1) '?' false
      | some true =>
        if !more.isEmpty then
          setValue "OPTARG".toList more
          record next 0 c false
        else
          match all[next]? with
          | some value =>
            setValue "OPTARG".toList value
            record (next + 1) 0 c false
          | none =>
            if silent then
              setValue "OPTARG".toList [c]
              record next 0 ':' false
            else
              match (← shell).dialect with
              | .common =>
                let _ ← put 2 (bytesOf "No arg for -" ++ [c] ++ bytesOf " option\n")
              | .rich =>
                let _ ← put 2 (s.name ++ bytesOf ": option requires an argument -- " ++ [c, '\n'])
              forget
              record next 0 '?' false
      | some false =>
        if (← shell).dialect = .rich then forget else setValue "OPTARG".toList []
        record next (if more.isEmpty then 0 else place + 1) c false
  | _ =>
    match (← shell).dialect with
    | .common => fail "Usage: getopts optstring var [arg...]"
    | .rich =>
      let _ ← put 2 (bytesOf "getopts: usage: getopts optstring name [arg ...]\n")
      return 2

/-! ### Sums -/

/-- The value of sums; whether the last one is zero. -/
def letSums (args : List Bytes) : Acting Nat := do
  if args.isEmpty then
    complainText "expression expected"
    return 1
  let values ← args.mapM (sumValue sumDepth)
  return if values.getLast? = some 0 then 1 else 0

end FormatChain.Shell
