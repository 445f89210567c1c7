import FormatChain.Tools.Conditions
import FormatChain.Tools.Files

/-!
# Commands that tell something

Commands that tell whether a condition holds, who works on which machine, and what is known of a file,
and those that make or take away a single name.

* `condition` : whether a condition holds.
* `whoami`, `identity`, `machineName`, `terminal` : who works, and where.
* `stat` : what is known of a file.
* `mktemp`, `link`, `unlink` : single names.
-/

namespace FormatChain.Tools

open FormatChain.Process

/-! ## Conditions -/

/-- What is wrong with a condition, in words. -/
def conditionWords (count : Nat) : Condition.Fault → String
  | .unexpectedOperator op =>
    if count > 3 then s!"extra argument {quoted op}"
    else if count = 3 then s!"{quoted op}: binary operator expected"
    else s!"{quoted op}: unary operator expected"
  | .argumentExpected op => s!"missing argument after {quoted op}"
  | .closingExpected => "')' expected"
  | .illegalNumber text => s!"invalid integer {quoted text}"

/-- Tells whether a condition holds, which may have to end with a bracket. -/
def condition (bracket : Bool) : Program := fun j => do
  if bracket && j.args.getLast? ≠ some [']'] then j.fail 2 "missing ']'"
  else
    let args := if bracket then j.args.dropLast else j.args
    let site : Condition.Site := { disk := ← theDisk, cwd := j.cwd }
    match site.holds args with
    | .ok well => return statusOf well
    | .error fault => j.fail 2 (conditionWords args.length fault)

/-! ## Who, and where -/

/-- Writes the name of the one who works. -/
def whoami : Program := saying "root" { letters := "" }

/-- Someone whom the system knows: a name, a number, and the number of the group. -/
structure Person where
  /-- The name. -/
  name : Bytes
  /-- The number. -/
  number : Nat
  /-- The number of the group. -/
  group : Nat

/-- The people that a disk knows. -/
def peopleOf (disk : Disk) : List Person :=
  let bytes := ((disk.openBytes Path.root ⟨"/etc/passwd"⟩).toOption.map ofNumbers).getD []
  (linesOf bytes).filterMap fun line =>
    match splitAtByte ':' line.body with
    | name :: _ :: number :: group :: _ =>
      match natOf? number, natOf? group with
      | some number, some group => some ⟨name, number, group⟩
      | _, _ => none
    | _ => none

/-- The names of groups that nobody has the name of. -/
def groupNames : List (Nat × String) :=
  [(8, "mail"), (12, "man"), (13, "proxy"), (33, "www-data"), (34, "backup"), (38, "list"), (39, "irc"),
    (60, "games"), (65534, "nogroup")]

/-- The name of a group. -/
def groupName (people : List Person) (number : Nat) : Bytes :=
  match groupNames.find? (·.1 = number), people.find? (·.number = number) with
  | some entry, _ => bytesOf entry.2
  | none, some person => person.name
  | none, none => digitsOf number

/-- Someone with a name, or with a number. -/
def personOf? (people : List Person) (name : Bytes) : Option Person :=
  (people.find? (·.name = name)) <|> (natOf? name).bind fun n => people.find? (·.number = n)

/-- Writes who works, by numbers and names. -/
def identity : Program := fun j =>
  let rules : OptionRules := {
    letters := "agGnruzZ"
    words := [("group", 'g'), ("groups", 'G'), ("name", 'n'), ("real", 'r'), ("user", 'u'), ("zero", 'z'),
      ("context", 'Z')] }
  j.withOptions 1 rules fun given operands => do
    let kinds := ['u', 'g', 'G'].filter (has given)
    let plain := kinds.isEmpty
    if has given 'Z' then j.fail 1 "--context (-Z) works only on an SELinux-enabled kernel"
    else if kinds.length > 1 then j.fail 1 "cannot print \"only\" of more than one choice"
    else if plain && (has given 'n' || has given 'r') then
      j.fail 1 "cannot print only names or real IDs in default format"
    else if plain && has given 'z' then j.fail 1 "option --zero not permitted in default format"
    else
      let people := peopleOf (← theDisk)
      let mut well := true
      for name in if operands.isEmpty then ["root".toList] else operands do
        match personOf? people name with
        | none =>
          j.complain s!"{quoted name}: no such user"
          well := false
        | some person =>
          let group := groupName people person.group
          let shown : Bytes :=
            if plain then
              bytesOf (s!"uid={person.number}({textOf person.name}) gid={person.group}({textOf group}) "
                ++ s!"groups={person.group}({textOf group})")
            else if kinds = ['u'] then if has given 'n' then person.name else digitsOf person.number
            else if has given 'n' then group else digitsOf person.group
          Running.write (shown ++ [if has given 'z' then '\x00' else '\n'])
      return statusOf well

/-- Writes the groups of people. -/
def groups : Program := fun j =>
  j.withOptions 1 { letters := "" } fun _ operands => do
    let people := peopleOf (← theDisk)
    if operands.isEmpty then Running.writeLine (bytesOf "root")
    let mut well := true
    for name in operands do
      match people.find? (·.name = name) with
      | none =>
        j.complain s!"{quoted name}: no such user"
        well := false
      | some person => Running.writeLine (name ++ bytesOf " : " ++ groupName people person.group)
    return statusOf well

/-- How many tasks can be done at once. -/
def taskPlaces : Nat := 4

/-- Writes how many tasks can be done at once, some of them left out. -/
def nproc : Program := fun j =>
  j.withOptions 1 { letters := "\x01\x02:", words := [("all", '\x01'), ("ignore", '\x02')] } fun given operands => do
    match valueOf? given '\x02', operands with
    | some value, _ =>
      match natOf? value with
      | none => j.fail 1 s!"invalid number: {quoted value}"
      | some n =>
        Running.writeLine (digitsOf (max 1 (taskPlaces - n)))
        return success
    | none, extra :: _ => j.misused 1 s!"extra operand {quoted extra}"
    | none, [] =>
      Running.writeLine (digitsOf taskPlaces)
      return success

/-- Waits until all is on the disk. -/
def sync : Program := fun j =>
  j.withOptions 1 { letters := "df", words := [("data", 'd'), ("file-system", 'f')] } fun given operands => do
    if has given 'd' && has given 'f' then
      j.fail 1 "cannot specify both --data and --file-system"
    else if has given 'd' && operands.isEmpty then j.fail 1 "--data needs at least one argument"
    else
      let mut well := true
      for name in operands do
        match ← placeOf j name with
        | .ok (.vacant _) =>
          j.complain s!"error opening {quoted name}: No such file or directory"
          well := false
        | .error e =>
          j.complain s!"error opening {quoted name}: {e.words}"
          well := false
        | .ok _ => pure ()
      return statusOf well

/-- Writes the name of the system and of the machine. -/
def machineName : Program := fun j =>
  let rules : OptionRules := {
    letters := "asnrvmpio"
    words := [("all", 'a'), ("kernel-name", 's'), ("nodename", 'n'), ("kernel-release", 'r'),
      ("kernel-version", 'v'), ("machine", 'm'), ("processor", 'p'), ("hardware-platform", 'i'),
      ("operating-system", 'o')] }
  j.withOptions 1 rules fun given operands => do
    match operands with
    | extra :: _ => j.misused 1 s!"extra operand {quoted extra}"
    | [] =>
      let known : List (Char × String) := [('s', "Linux"), ('n', "localhost"), ('r', "6.1.0"), ('v', "#1 SMP"),
        ('m', "x86_64"), ('p', "x86_64"), ('i', "x86_64"), ('o', "GNU/Linux")]
      let wanted := known.filter fun entry => has given 'a' || has given entry.1
      let wanted := if given.isEmpty then known.take 1 else wanted
      Running.writeLine (bytesOf (" ".intercalate (wanted.map (·.2))))
      return success

/-- Writes the name of the machine. -/
def hostname : Program := fun _ => do
  Running.writeLine (bytesOf "localhost")
  return success

/-- Tells that nobody looks on. -/
def terminal : Program := fun j =>
  j.withOptions 2 { letters := "s", words := [("silent", 's'), ("quiet", 's')] } fun given operands => do
    match operands with
    | extra :: _ => j.misused 2 s!"extra operand {quoted extra}"
    | [] =>
      unless has given 's' do Running.writeLine (bytesOf "not a tty")
      return .code 1

/-! ## Files -/

/-- What is known of a file, at the places of a form that ask for it. -/
def filledForm (disk : Disk) (name : Bytes) (place : Place) : Bytes → Bytes
  | '%' :: c :: rest =>
    let size : Nat := match place with
      | .file path => match disk.openBytes Path.root path with
        | .ok bytes => bytes.length
        | .error _ => 0
      | _ => 4096
    let isDirectory : Bool := match place with
      | .directory _ => true
      | _ => false
    let mode : String :=
      if isDirectory then "755"
      else if disk.executable.any (·.same place.path) then "755"
      else if disk.isReadOnly place.path then "444" else "644"
    let shownMode : String := match isDirectory, mode with
      | true, _ => "drwxr-xr-x"
      | false, "755" => "-rwxr-xr-x"
      | false, "444" => "-r--r--r--"
      | false, _ => "-rw-r--r--"
    let kind : String := if isDirectory then "directory"
      else if size = 0 then "regular empty file" else "regular file"
    let shown : Bytes := match c with
      | 'n' => name
      | 'N' => '\'' :: name ++ ['\'']
      | 's' => digitsOf size
      | 'a' => bytesOf mode
      | 'A' => bytesOf shownMode
      | 'F' => bytesOf kind
      | 'u' | 'g' => ['0']
      | 'U' | 'G' => bytesOf "root"
      | 'h' => ['1']
      | '%' => ['%']
      | other => ['%', other]
    shown ++ filledForm disk name place rest
  | c :: rest => c :: filledForm disk name place rest
  | [] => []

/-- Writes what is known of files. -/
def stat : Program := fun j =>
  let rules : OptionRules := {
    letters := "Lfc:p:t"
    words := [("dereference", 'L'), ("file-system", 'f'), ("format", 'c'), ("printf", 'p'), ("terse", 't')] }
  j.withOptions 1 rules fun given operands => do
    if operands.isEmpty then j.misused 1 "missing operand"
    else
      let mut well := true
      for name in operands do
        let disk ← theDisk
        match ← entryOf j name with
        | .ok (.vacant _) =>
          j.complain s!"cannot statx {shellQuoted name}: No such file or directory"
          well := false
        | .error e =>
          j.complain s!"cannot statx {shellQuoted name}: {e.words}"
          well := false
        | .ok place =>
          match valueOf? given 'c', valueOf? given 'p' with
          | some form, _ => Running.writeLine (filledForm disk name place form)
          | none, some form => Running.write (filledForm disk name place (unescape { zeroDigits := 3 } form).1)
          | none, none =>
            Running.write (filledForm disk name place "  File: %n\n  Size: %s\n".toList)
      return statusOf well

/-! ## Single names -/

/-- A template with letters in the place of its last marks, none if there are too few. -/
def filledTemplate (n : Nat) (template : Bytes) : Option Bytes :=
  let backwards := template.reverse
  let after := backwards.takeWhile (· ≠ 'X')
  let marks := (backwards.drop after.length).takeWhile (· = 'X')
  let before := (backwards.drop (after.length + marks.length)).reverse
  if marks.length < 3 then none
  else
    let digits := digitsOf n
    let fill := (List.replicate (marks.length - digits.length) 'a' ++ digits).take marks.length
    some (before ++ fill ++ after.reverse)

/-- The first name made from a template that is not taken, in at most so many attempts. -/
def freeName (j : Job) (template : Bytes) : Nat → Nat → Running (Option Bytes)
  | 0, n => return filledTemplate n template
  | attempts + 1, n => do
    match filledTemplate n template with
    | none => return none
    | some name =>
      match ← placeOf j name with
      | .ok (.vacant _) => return some name
      | .error _ => return some name
      | .ok _ => freeName j template attempts (n + 1)

/-- Makes a file or a directory under a name that is not taken, and writes the name. -/
def mktemp : Program := fun j =>
  let rules : OptionRules := {
    letters := "dp::qut", words := [("directory", 'd'), ("tmpdir", 'p'), ("quiet", 'q'), ("dry-run", 'u')] }
  -- The directory after the letter is an argument of its own.
  let args := match j.args with
    | ['-', 'p'] :: dir :: rest => ("-p".toList ++ dir) :: rest
    | ['-', 'd'] :: ['-', 'p'] :: dir :: rest => ['-', 'd'] :: ("-p".toList ++ dir) :: rest
    | args => args
  Job.withOptions { j with args } 1 rules fun given operands => do
    match operands with
    | _ :: _ :: _ => j.misused 1 "too many templates"
    | _ =>
      let usual : Bytes := match j.setting? "TMPDIR".toList with
        | some (c :: dir) => c :: dir
        | _ => "/tmp".toList
      let dir? : Option Bytes := match valueOf? given 'p' with
        | some (c :: dir) => some (c :: dir)
        | some [] => some usual
        | none => if operands.isEmpty || has given 't' then some usual else none
      let name := operands.headD "tmp.XXXXXXXXXX".toList
      let template := match dir? with
        | some dir => nameInside dir name
        | none => name
      match ← freeName j template 100 1 with
      | none => j.fail 1 s!"too few X's in template {quoted name}"
      | some path =>
        let made ← if has given 'u' then pure (Except.ok ())
          else if has given 'd' then makeOne j false path
          else Running.writeFile j.cwd path []
        match made with
        | .ok () =>
          Running.writeLine path
          return success
        | .error e =>
          let kind := if has given 'd' then "directory" else "file"
          j.fail 1 s!"failed to create {kind} via template {shellQuoted template}: {e.words}"

/-- Takes away a name of a file. -/
def unlink : Program := fun j =>
  j.withOptions 1 { letters := "" } fun _ operands => do
    match operands with
    | [] => j.misused 1 "missing operand"
    | [name] =>
      match ← entryOf j name with
      | .ok (.file place) =>
        setDisk ((← theDisk).unlink place)
        return success
      | .ok (.directory _) => j.fail 1 s!"cannot unlink {shellQuoted name}: Is a directory"
      | .ok (.vacant _) => j.fail 1 s!"cannot unlink {shellQuoted name}: No such file or directory"
      | .error e => j.fail 1 s!"cannot unlink {shellQuoted name}: {e.words}"
    | _ :: extra :: _ => j.misused 1 s!"extra operand {quoted extra}"

/-- Gives a file another name. -/
def link : Program := fun j =>
  j.withOptions 1 { letters := "" } fun _ operands => do
    match operands with
    | [] => j.misused 1 "missing operand"
    | [name] => j.misused 1 s!"missing operand after {quoted name}"
    | [source, target] =>
      let refuse (e : SystemError) : Running ExitStatus :=
        j.fail 1 s!"cannot create link {shellQuoted target} to {shellQuoted source}: {e.words}"
      match ← placeOf j source, ← placeOf j target with
      | .ok (.file place), .ok (.vacant free) =>
        setDisk (copyFile (← theDisk) place free)
        return success
      | .ok (.vacant _), _ => refuse .notFound
      | .ok (.directory _), _ => refuse .permissionDenied
      | .error e, _ => refuse e
      | _, .ok _ => refuse .alreadyThere
      | _, .error e => refuse e
    | _ :: _ :: extra :: _ => j.misused 1 s!"extra operand {quoted extra}"

end FormatChain.Tools
