import FormatChain.Process.World
import FormatChain.Shell.Reading.Commands
import FormatChain.Shell.Wildcard

/-!
# A shell at work

A shell keeps the values of names, the functions, and where its streams lead.  What streams lead to
is shared by all shells that come from one another.

* `State` : what a shell keeps.
* `Opened`, `Scene` : what streams lead to, and all that a shell works on.
* `Flow`, `Acting` : why a command does not go on, and doing something.
* `put`, `unread` : writing and reading.
* `valueOf?`, `setValue` : values of names.
-/

namespace FormatChain.Shell

open FormatChain.Process

/-! ## Entries -/

/-- The value of a key. -/
def entryOf? {α : Type} (key : Bytes) : List (Bytes × α) → Option α
  | [] => none
  | entry :: rest => if entry.1 = key then some entry.2 else entryOf? key rest

/-- Gives a key a value: in its place if it is there, at the end otherwise. -/
def setEntry {α : Type} (key : Bytes) (value : α) : List (Bytes × α) → List (Bytes × α)
  | [] => [(key, value)]
  | entry :: rest =>
    if entry.1 = key then (key, value) :: rest else entry :: setEntry key value rest

/-! ## What a shell keeps -/

/-- A name that may have a value. -/
structure Variable where
  /-- The value. -/
  value : Option Bytes := none
  /-- The elements by their keys, if it is an array. -/
  elements : Option (List (Bytes × Bytes)) := none
  /-- Whether the keys are texts. -/
  keyed : Bool := false
  /-- Whether it got its elements, be it none. -/
  given : Bool := false
  /-- Whether commands get it. -/
  exported : Bool := false
  /-- Whether it keeps its value. -/
  constant : Bool := false
  /-- Whether its values are sums. -/
  numeric : Bool := false
  /-- How the letters of its values are changed. -/
  casing : Option Casing := none
  /-- Whether its value is the name of the variable that is meant. -/
  reference : Bool := false
  /-- Whether functions get what is done on it. -/
  traced : Bool := false
  deriving Inhabited

/-- A function. -/
structure Function where
  /-- The line in which it starts. -/
  line : Nat
  /-- The script in which it stands, as complaints tell of it. -/
  source : Bytes := []
  /-- What it does. -/
  body : Command
  deriving Inhabited

/-- A function, or a script that another one asked for, that is at work. -/
structure Calling where
  /-- Its name. -/
  name : Bytes
  /-- Whether it is a function. -/
  isFunction : Bool := true
  /-- The script in which it stands, as complaints tell of it. -/
  source : Bytes := []
  /-- The line from which it was called. -/
  line : Nat
  /-- The values that names had before. -/
  saved : List (Bytes × Option Variable) := []
  deriving Inhabited

/-- A command that was left to itself. -/
structure Apart where
  /-- The number of its process. -/
  process : Nat
  /-- How it ends. -/
  status : ExitStatus
  /-- When it ends, in milliseconds that passed. -/
  ends : Nat
  /-- Whether it writes where the shell writes. -/
  writes : Bool

/-- What a shell keeps. -/
structure State where
  /-- Its language. -/
  dialect : Dialect := .common
  /-- Its name, or that of the script. -/
  name : Bytes := []
  /-- The arguments. -/
  args : List Bytes := []
  /-- The names with their values. -/
  vars : List (Bytes × Variable) := []
  /-- The functions. -/
  functions : List (Bytes × Function) := []
  /-- The letters of the settings that are on. -/
  settings : List Char := []
  /-- The number with which the last command ended. -/
  status : Nat := 0
  /-- The number with which the last command in a word ended. -/
  innerStatus : Nat := 0
  /-- The directory, without dots and links. -/
  cwd : Path := Path.root
  /-- What the streams lead to, by their numbers. -/
  streams : List (Nat × Nat) := [(0, 0), (1, 1), (2, 2)]
  /-- What is done on signals, the end of the shell among them. -/
  traps : List (Nat × Bytes) := []
  /-- The signals that came and have something to be done. -/
  pending : List Nat := []
  /-- The signals that were sent to the shell around it. -/
  outward : List Nat := []
  /-- The signals that are still to come, and when. -/
  coming : List (Nat × Nat) := []
  /-- The line of the command. -/
  line : Nat := 1
  /-- The line in which the function starts. -/
  functionLine : Option Nat := none
  /-- The functions, and scripts that others asked for, that are at work, the latest first. -/
  calls : List Calling := []
  /-- How many loops are at work. -/
  loops : Nat := 0
  /-- The command of the shell that is at work. -/
  command : Option Bytes := none
  /-- The texts in scripts. -/
  documents : List (Nat × Word) := []
  /-- How many texts in scripts there were. -/
  documentCount : Nat := 0
  /-- How many letters of an argument were looked at for options. -/
  optionPlace : Nat := 0
  /-- Whether it runs a script that another one asked for. -/
  sourced : Bool := false
  /-- Whether it is a shell inside another one. -/
  inner : Bool := false
  /-- The commands that were left to themselves, the latest first. -/
  apart : List Apart := []
  /-- How many commands were left to themselves. -/
  apartCount : Nat := 0
  /-- The short names of texts. -/
  aliases : List (Bytes × Bytes) := []
  /-- What new files may not have. -/
  mask : Nat := 18
  /-- What the script is, where complaints about it say so. -/
  origin : Bytes := []
  /-- The names of the settings of the rich language that are on and have no letters. -/
  options : List String := []
  /-- The numbers with which the stages of the last pipeline ended. -/
  stages : List Nat := [0]
  /-- How many shells are around it. -/
  depth : Nat := 0
  /-- The number from which the next one is made that nobody foresees, and the last one. -/
  chance : Nat × Nat := (4242, 0)
  /-- The directories to go back to, the next one first. -/
  directories : List Bytes := []
  /-- The last argument of the last command. -/
  lastArgument : Bytes := []
  /-- The files that commands write, or that commands read that are still to be run. -/
  channels : List (Path × Option Command) := []
  /-- The programs that were looked for, and how often they were started. -/
  found : List (Bytes × Bytes × Nat) := []
  /-- Whether something that is done on a signal or a command is being done. -/
  trapping : Bool := false
  /-- How many scripts and commands in words the command that is run is inside of. -/
  traceDepth : Nat := 0
  /-- The command that is run, as it is written. -/
  current : Bytes := []
  deriving Inhabited

/-! ## What streams lead to -/

/-- What a stream leads to. -/
inductive Target where
  /-- What comes in from outside. -/
  | incoming
  /-- What goes outside. -/
  | outgoing (stream : Stream)
  /-- A file, by its path without dots and links. -/
  | file (path : Path)
  /-- Bytes that are kept. -/
  | store
  /-- Nothing. -/
  | nowhere
  /-- A directory, which cannot be read as a file. -/
  | directory
  deriving DecidableEq, Inhabited

/-- Something that a stream leads to. -/
structure Opened where
  /-- What it is. -/
  target : Target
  /-- The bytes that are still to be read. -/
  unread : Bytes := []
  /-- What was written, the latest first. -/
  written : List Piece := []
  /-- How many bytes were written. -/
  size : Nat := 0
  /-- Where in a file the next byte goes. -/
  place : Nat := 0
  /-- Whether bytes go to the end of the file. -/
  appending : Bool := false
  /-- Whether somebody else reads what is written. -/
  piped : Bool := false
  /-- Whether more was written than anybody would read. -/
  endless : Bool := false
  /-- Whether it may be read. -/
  reads : Bool := true
  /-- Whether it may be written. -/
  writes : Bool := true
  deriving Inhabited

/-- All that a shell works on. -/
structure Scene where
  /-- The world. -/
  world : World := {}
  /-- The shell. -/
  shell : State := {}
  /-- What streams lead to. -/
  opened : Array Opened :=
    #[{ target := .incoming }, { target := .outgoing .output }, { target := .outgoing .complaints }]
  deriving Inhabited

/-- Why a command does not go on. -/
inductive Flow where
  /-- The shell ends. -/
  | leave
  /-- Something is wrong that ends the shell. -/
  | fault
  /-- So many loops end. -/
  | breakOut (n : Nat)
  /-- A loop goes on after so many others end. -/
  | goOn (n : Nat)
  /-- The function ends. -/
  | giveBack
  /-- A signal ends the shell. -/
  | killed (signal : Nat)
  /-- A command took the place of the shell, and ended. -/
  | replaced (status : ExitStatus)
  /-- A command goes on and on. -/
  | stuck
  deriving Repr, DecidableEq, Inhabited

/-- Doing something. -/
abbrev Acting := ExceptT Flow (StateM Scene)

/-- Doing something until it ends, in whatever way. -/
def attempt {α : Type} (act : Acting α) : Acting (Except Flow α) := do
  let scene ← get
  let (result, after) := act.run scene
  set after
  return result

/-- The shell. -/
def shell : Acting State := return (← get).shell

/-- Changes the shell. -/
def changeShell (f : State → State) : Acting Unit :=
  modify fun scene => { scene with shell := f scene.shell }

/-- Whether a setting is on. -/
def isOn (letter : Char) : Acting Bool := return (← shell).settings.contains letter

/-- Sets the number with which the last command ended. -/
def setStatus (n : Nat) : Acting Unit := changeShell fun s => { s with status := n }

/-! ## Streams -/

/-- What a stream leads to, and under which number. -/
def streamAt? (stream : Nat) : Acting (Option (Nat × Opened)) := do
  let scene ← get
  match (scene.shell.streams.find? fun entry => entry.1 = stream) with
  | none => return none
  | some (_, n) => return (scene.opened[n]?).map fun o => (n, o)

/-- Changes what streams lead to under a number. -/
def changeOpened (n : Nat) (f : Opened → Opened) : Acting Unit :=
  modify fun scene => { scene with opened := scene.opened.modify n f }

/-- Adds something that streams may lead to. -/
def addOpened (o : Opened) : Acting Nat := do
  let scene ← get
  set { scene with opened := scene.opened.push o }
  return scene.opened.size

/-- Leads a stream. -/
def lead (stream n : Nat) : Acting Unit := changeShell fun s =>
  { s with streams := (stream, n) :: s.streams.filter fun entry => entry.1 ≠ stream }

/-- Closes a stream. -/
def close (stream : Nat) : Acting Unit := changeShell fun s =>
  { s with streams := s.streams.filter fun entry => entry.1 ≠ stream }

/-- How many bytes nobody reads who gets them from somebody else. -/
def patience : Nat := 4194304

/-- The bytes of a file. -/
def fileBytes (disk : Disk) (path : Path) : Bytes :=
  match disk.openBytes Path.root path with
  | .ok numbers => ofNumbers numbers
  | .error _ => []

/-- Writes bytes to a stream. Tells whether they could be written. -/
def put (stream : Nat) (bytes : Bytes) : Acting Bool := do
  match ← streamAt? stream with
  | none => return false
  | some (n, o) =>
    if !o.writes then return false
    match o.target with
    | .incoming => return true
    | .nowhere => return true
    | .directory => return false
    | .outgoing out =>
      modify fun scene => { scene with world := ((Running.put out bytes).run scene.world).2 }
      return true
    | .store =>
      let world := (← get).world
      let piece : Piece := ⟨.output, bytes, world.slept, world.writer⟩
      changeOpened n fun o => { o with written := piece :: o.written, size := o.size + bytes.length }
      if o.piped && patience < o.size then
        changeOpened n fun o => { o with endless := true }
        throw (.killed 13)
      return true
    | .file path =>
      if path.same ⟨"/dev/full"⟩ then return bytes.isEmpty
      let scene ← get
      let before := fileBytes scene.world.disk path
      let place := if o.appending then before.length else o.place
      let gap := List.replicate (place - before.length) '\x00'
      let bytesAfter := before.take place ++ gap ++ bytes ++ before.drop (place + bytes.length)
      let disk := scene.world.disk.putBytes path (toNumbers bytesAfter)
      set { scene with world := { scene.world with disk } }
      changeOpened n fun o => { o with place := place + bytes.length }
      return true

/-- The bytes that are still to be read from a stream; none if it cannot be read. -/
def unreadOf? (stream : Nat) : Acting (Option Bytes) := do
  match ← streamAt? stream with
  | none => return none
  | some (_, o) =>
    if !o.reads then return none
    match o.target with
    | .incoming => return some (← get).world.input
    | .directory => return none
    | _ => return some o.unread

/-- Sets the bytes that are still to be read from a stream. -/
def setUnread (stream : Nat) (bytes : Bytes) : Acting Unit := do
  match ← streamAt? stream with
  | none => return ()
  | some (n, o) =>
    match o.target with
    | .incoming =>
      modify fun scene => { scene with world := { scene.world with input := bytes } }
    | _ => changeOpened n fun o => { o with unread := bytes }

/-- What was written to something that keeps it. -/
def keptBytes (n : Nat) : Acting Bytes := do
  match (← get).opened[n]? with
  | some o => return bytesInOrder o.written
  | none => return []

/-- Whether a function is at work. -/
def State.inFunction (s : State) : Bool := s.calls.any (·.isFunction)

/-! ## Complaints -/

/-- What stands before a complaint. -/
def State.complaintStart (s : State) : Bytes :=
  let place := match s.dialect with
    | .common => s.name ++ bytesOf s!": {s.line}: "
    | .rich => (s.calls.head?.map (·.source)).getD s.name ++ bytesOf s!": line {s.line}: "
  match s.command with
  | some command => place ++ command ++ [':', ' ']
  | none => place

/-- Complains. -/
def complain (text : Bytes) : Acting Unit := do
  let _ ← put 2 ((← shell).complaintStart ++ text ++ ['\n'])

/-- Complains with a text. -/
def complainText (text : String) : Acting Unit := complain (bytesOf text)

/-- Finds that something is wrong that ends the shell, with a number. -/
def failWith {α : Type} (status : Nat) (text : Bytes) : Acting α := do
  complain text
  setStatus status
  throw .fault

/-- Finds that something is wrong that ends the shell. -/
def fail {α : Type} (text : String) : Acting α := failWith 2 (bytesOf text)

/-- Says one thing in the common language, and another one in the rich language. -/
def worded (common rich : String) : Acting String := do
  return match (← shell).dialect with
    | .common => common
    | .rich => rich

/-! ## Names -/

/-- An array of texts. -/
def Variable.ofList (texts : List Bytes) : Variable :=
  { elements := some (texts.zipIdx.map fun (bytes, n) => (digitsOf n, bytes)), given := true }

/-- A variable with a value. -/
def Variable.ofBytes (bytes : Bytes) : Variable := { value := some bytes }

/-- The number by which the system knows the shell. -/
def processNumber : Nat := 4242

/-- The settings of a shell by their names, in order; those without letters have other bytes. -/
def settingNames : Dialect → List (String × Char)
  | .common => [("errexit", 'e'), ("noglob", 'f'), ("ignoreeof", 'I'), ("interactive", 'i'),
      ("monitor", 'm'), ("noexec", 'n'), ("stdin", 's'), ("xtrace", 'x'), ("verbose", 'v'), ("vi", 'V'),
      ("emacs", 'E'), ("noclobber", 'C'), ("allexport", 'a'), ("notify", 'b'), ("nounset", 'u'),
      ("privileged", 'p'), ("nolog", '.'), ("debug", ';')]
  | .rich => [("allexport", 'a'), ("braceexpand", 'B'), ("emacs", '^'), ("errexit", 'e'), ("errtrace", 'E'),
      ("functrace", 'T'), ("hashall", 'h'), ("histexpand", 'H'), ("history", '.'), ("ignoreeof", ':'),
      ("interactive-comments", ';'), ("keyword", 'k'), ("monitor", 'm'), ("noclobber", 'C'),
      ("noexec", 'n'), ("noglob", 'f'), ("nolog", ','), ("notify", 'b'), ("nounset", 'u'), ("onecmd", 't'),
      ("physical", 'P'), ("pipefail", '|'), ("posix", '6'), ("privileged", 'p'), ("verbose", 'v'),
      ("vi", '~'), ("xtrace", 'x')]

/-- The settings without letters that are on at the start. -/
def quietSettings : List Char := [';']

/-- The variable of a name that the rich language gives a value. -/
def State.computed? (s : State) (world : World) (name : Bytes) : Option Variable :=
  let number (n : Nat) : Option Variable := some (.ofBytes (digitsOf n))
  let names := s.calls.map (·.name)
  let whole := if s.origin.isEmpty && !names.isEmpty then names ++ ["main".toList] else names
  let sources := s.calls.map (·.source) ++ (if s.origin.isEmpty then [s.name] else [])
  match textOf name with
  | "PIPESTATUS" => some (.ofList (s.stages.map digitsOf))
  | "FUNCNAME" => if names.isEmpty then none else some (.ofList whole)
  | "BASH_LINENO" => if names.isEmpty then none else some (.ofList (s.calls.map fun c => digitsOf c.line))
  | "BASH_SOURCE" => if sources.isEmpty then none else some (.ofList sources)
  | "BASH_SUBSHELL" => number s.depth
  | "BASHPID" => number (processNumber + s.depth)
  | "SECONDS" => number (world.slept / 1000)
  | "LINENO" => number s.line
  | "BASH_COMMAND" => some (.ofBytes s.current)
  | "DIRSTACK" => some (.ofList (bytesOf s.cwd.text :: s.directories))
  | "_" => some (.ofBytes s.lastArgument)
  | "BASHOPTS" => some { Variable.ofBytes (joinWith [':'] ((s.options.map bytesOf).mergeSort bytesBefore)) with
      constant := true }
  | "SHELLOPTS" =>
    let on := (settingNames .rich).filter fun entry => s.settings.contains entry.2
    some { Variable.ofBytes (joinWith [':'] (on.map fun entry => bytesOf entry.1)) with constant := true }
  | _ => none

/-- The variable that is stored under a name. -/
def storedVariable (name : Bytes) : Acting Variable := do
  return (entryOf? name (← shell).vars).getD {}

/-- The name that is meant by a name, names standing for others up to so deep. -/
def meantName : Nat → Bytes → Acting Bytes
  | 0, name => return name
  | depth + 1, name => do
    let v ← storedVariable name
    match v.reference, v.value with
    | true, some other => if other.isEmpty then return name else meantName depth other
    | _, _ => return name

/-- How deep names may stand for others. -/
def referenceDepth : Nat := 8

/-- The variable of a name. -/
def variableOf (name : Bytes) : Acting Variable := do
  let scene ← get
  match scene.shell.dialect with
  | .common => storedVariable name
  | .rich =>
    let name ← meantName referenceDepth name
    match scene.shell.computed? scene.world name with
    | some v => return v
    | none => storedVariable name

/-- Stores the variable of a name. -/
def storeVariable (name : Bytes) (v : Variable) : Acting Unit := changeShell fun s =>
  { s with vars := setEntry name v s.vars }

/-- The key of the first element of an array. -/
def firstKey : Bytes := ['0']

/-- The value of a variable, that of the first element if it is an array. -/
def Variable.text? (v : Variable) : Option Bytes :=
  match v.elements with
  | some elements => entryOf? firstKey elements
  | none => v.value

/-- The letters of the settings in the order in which they are shown. -/
def settingOrder : Dialect → List Char
  | .common => ['p', 'u', 'b', 'a', 'C', 'E', 'V', 'v', 'x', 's', 'n', 'm', 'i', 'I', 'f', 'e']
  | .rich => ['a', 'b', 'e', 'f', 'h', 'k', 'm', 'n', 'p', 't', 'u', 'v', 'x', 'B', 'C', 'E', 'H', 'T', 'c',
      's']

/-- The letters of the settings that are on, as they are shown. -/
def shownSettings (s : State) : Bytes :=
  (settingOrder s.dialect).filter fun c => s.settings.contains c

/-- The number that follows another one that nobody foresees. -/
def nextChance (n : Nat) : Nat :=
  let n : Int := if n = 0 then 123459876 else n
  let next := 16807 * (n % 127773) - 2836 * (n / 127773)
  (if next < 0 then next + 2147483647 else next).toNat

/-- A number that nobody foresees, in at most so many steps. -/
def takeChance : Nat → Acting Nat
  | 0 => return 0
  | steps + 1 => do
    let (n, last) := (← shell).chance
    let n := nextChance n
    let value := Nat.xor (n / 65536) (n % 65536) % 32768
    changeShell fun s => { s with chance := (n, value) }
    if value = last then takeChance steps else return value

/-- The value of a name. -/
def valueOf? (name : Bytes) : Acting (Option Bytes) := do
  let s ← shell
  match name with
  | ['?'] => return some (digitsOf s.status)
  | ['$'] => return some (digitsOf processNumber)
  | ['#'] => return some (digitsOf s.args.length)
  | ['-'] => return some (shownSettings s)
  | ['0'] => return some s.name
  | ['!'] => return if s.apartCount = 0 then none else some (digitsOf (processNumber + s.apartCount))
  | _ =>
    match natOf? name with
    | some n => return s.args[n - 1]?
    | none =>
      if s.dialect = .rich && name = "RANDOM".toList then return some (digitsOf (← takeChance 4))
      else return (← variableOf name).text?

/-- Whether a name may not get another value. -/
def refuseConstant (name : Bytes) : Acting Unit := do
  if (← variableOf name).constant then
    match (← shell).dialect with
    | .common => failWith 2 (name ++ bytesOf ": is read only")
    | .rich => failWith 1 (name ++ bytesOf ": readonly variable")

/-- A text with its letters changed where wanted: all of them, or the first one. -/
def Casing.change (casing : Casing) (c : Char) : Char :=
  match casing with
  | .capital => c.toUpper
  | .small => c.toLower
  | .turned => if c.isUpper then c.toLower else c.toUpper

/-- The value that a variable gets. -/
def Variable.cased (v : Variable) (bytes : Bytes) : Bytes :=
  match v.casing with
  | some casing => bytes.map casing.change
  | none => bytes

/-- Gives a name a value. -/
def setValue (name bytes : Bytes) : Acting Unit := do
  let rich : Bool := (← shell).dialect = .rich
  let name ← if rich then meantName referenceDepth name else pure name
  refuseConstant name
  let v ← storedVariable name
  let bytes := v.cased bytes
  if name = "OPTIND".toList then changeShell fun s => { s with optionPlace := 0 }
  if rich && name = "RANDOM".toList then
    changeShell fun s => { s with chance := ((natOf? bytes).getD 0, 0) }
  let exported := v.exported || (← isOn 'a')
  match v.elements with
  | some elements =>
    storeVariable name { v with elements := some (setEntry firstKey bytes elements), exported }
  | none => storeVariable name { v with value := some bytes, exported }

/-- Takes the value of a name away. -/
def unsetValue (name : Bytes) : Acting Unit := do
  refuseConstant name
  changeShell fun s => { s with vars := s.vars.filter fun entry => entry.1 ≠ name }

/-- Whether the key of an element comes before another one, or is the same. -/
def keyBefore (a b : Bytes × Bytes) : Bool :=
  match natOf? a.1, natOf? b.1 with
  | some m, some n => m ≤ n
  | _, _ => true

/-- Where the element of a key that is a text stands in the order of elements. -/
def keyPlace (key : Bytes) : Nat :=
  key.foldl (fun n c =>
    let product := n * 16777619 % 2 ^ 32
    let byte := if c.toNat < 128 then c.toNat else c.toNat + (2 ^ 32 - 256)
    Nat.xor product byte) 2166136261 % 1024

/-- The elements in the order of their keys. -/
def Variable.listed (v : Variable) : List (Bytes × Bytes) :=
  match v.elements with
  | some elements =>
    if v.keyed then elements.reverse.mergeSort fun a b => keyPlace a.1 ≤ keyPlace b.1
    else elements.mergeSort keyBefore
  | none => v.value.toList.map fun bytes => (firstKey, bytes)

/-- Gives an element of an array a value. -/
def setElement (name key bytes : Bytes) : Acting Unit := do
  let name ← meantName referenceDepth name
  refuseConstant name
  let v ← storedVariable name
  let elements := v.elements.getD (v.value.toList.map fun bytes => (firstKey, bytes))
  storeVariable name { v with
    value := none, elements := some (setEntry key (v.cased bytes) elements), given := true }

/-- The names that commands get, with their values. -/
def State.exports (s : State) : List (Bytes × Bytes) :=
  s.vars.filterMap fun (name, v) =>
    if v.exported then v.value.map fun bytes => (name, bytes) else none

/-- The bytes that part the words of values. -/
def separators : Acting Bytes := do
  return ((← variableOf "IFS".toList).value).getD [' ', '\t', '\n']

end FormatChain.Shell
