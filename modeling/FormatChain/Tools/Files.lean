import FormatChain.Process.Options
import FormatChain.Tools.Writing

/-!
# Files and directories

Commands that make, move, copy, remove and list files and directories.

* `ls`, `find` : what is there.
* `cp`, `mv`, `ln`, `rm`, `mkdir`, `rmdir`, `touch` : changing it.
* `realpath`, `readlink` : where paths lead.
-/

namespace FormatChain.Tools

open FormatChain.Process

/-- The disk. -/
def theDisk : Running Disk := do return (← get).disk

/-- Changes the disk. -/
def setDisk (disk : Disk) : Running Unit := modify fun w => { w with disk }

/-- What a path leads to. -/
def placeOf (j : Job) (name : Bytes) : Running (Except SystemError Place) := do
  return (← theDisk).find j.cwd (pathOf name)

/-- What a path leads to, a link at its end not followed. -/
def entryOf (j : Job) (name : Bytes) : Running (Except SystemError Place) := do
  return (← theDisk).search false j.cwd (pathOf name)

/-- The path of a name in a directory, as it is written. -/
def nameInside (dir name : Bytes) : Bytes :=
  if dir.getLast? = some '/' then dir ++ name else dir ++ '/' :: name

/-! ## Copying and moving -/

/-- The files below a directory with their paths from there. -/
def filesBelow (disk : Disk) (dir : Path) : List (Path × List PathComponent) :=
  disk.files.filterMap fun (path, _) =>
    if path.isWithin dir && !path.same dir then
      some (path, path.components.drop dir.components.length)
    else none

/-- A path of components from a directory. -/
def below (dir : Path) (components : List PathComponent) : Path :=
  components.foldl
    (fun path component =>
      match component with
      | .name chars => path.join ⟨String.ofList chars⟩
      | _ => path) dir

/-- The disk with the bytes and the marks of a file at another place. -/
def copyFile (disk : Disk) (source target : Path) : Disk :=
  match disk.openBytes Path.root source with
  | .ok bytes =>
    let disk := disk.putBytes target bytes
    if disk.executable.any (·.same source) then { disk with executable := target :: disk.executable }
    else disk
  | .error _ => disk

/-- The disk with all that is in a directory in another directory. -/
def copyDirectory (disk : Disk) (source target : Path) : Disk :=
  let inside := disk.directories.filter fun dir => dir.isWithin source
  let depth := source.components.length
  let disk' := inside.foldl
    (fun d dir => d.makeDirectory (below target (dir.components.drop depth))) (disk.makeDirectory target)
  (filesBelow disk source).foldl (fun d (path, rest) => copyFile d path (below target rest)) disk'

/-- Where something goes: into a directory under its own name, or under the name given. -/
def destination (j : Job) (intoDirectory : Bool) (source target : Bytes) : Running Bytes := do
  match ← placeOf j target with
  | .ok (.directory _) =>
    return if intoDirectory then nameInside target (lastName source) else target
  | _ => return target

/-- The sources and the target of a command that copies or moves, or a complaint. -/
def withTarget (j : Job) (given : List Given) (operands : List Bytes)
    (act : Bytes → Bytes → Running Bool) : Running ExitStatus := do
  let (sources, target?) := match valueOf? given 't' with
    | some dir => (operands, some dir)
    | none => (operands.dropLast, operands.getLast?)
  match sources, target? with
  | _, none => j.misused 1 "missing file operand"
  | [], some only =>
    if (valueOf? given 't').isSome then j.misused 1 "missing file operand"
    else j.misused 1 s!"missing destination file operand after {shellQuoted only}"
  | _, some target =>
    let place ← placeOf j target
    let isDirectory := match place with
      | .ok (.directory _) => true
      | _ => false
    if sources.length > 1 && !isDirectory then
      match place with
      | .ok (.vacant _) => j.fail 1 s!"target {shellQuoted target}: No such file or directory"
      | .error e => j.fail 1 s!"target {shellQuoted target}: {e.words}"
      | _ => j.fail 1 s!"target {shellQuoted target}: Not a directory"
    else
      let mut well := true
      for source in sources do
        let goal ← destination j (!has given 'T') source target
        if !(← act source goal) then well := false
      return statusOf well

/-- The options of the commands that copy and move. -/
def transferRules : OptionRules :=
  { letters := "abdfHilLnpPrRst:TuvxZ"
    words := [("archive", 'a'), ("force", 'f'), ("interactive", 'i'), ("link", 'l'), ("no-clobber", 'n'),
      ("recursive", 'r'), ("symbolic-link", 's'), ("target-directory", 't'),
      ("no-target-directory", 'T'), ("update", 'u'), ("verbose", 'v')] }

/-- Copies files. -/
def cp : Program := fun j =>
  j.withOptions 1 transferRules fun given operands =>
    withTarget j given operands fun source goal => do
      let shown (name : Bytes) := s!"{shellQuoted name}"
      match ← placeOf j source with
      | .error e =>
        j.complain s!"cannot stat {shown source}: {e.words}"
        return false
      | .ok (.vacant _) =>
        j.complain s!"cannot stat {shown source}: No such file or directory"
        return false
      | .ok (.directory place) =>
        if has given 'r' || has given 'R' || has given 'a' then
          match ← placeOf j goal with
          | .ok (.file _) =>
            j.complain s!"cannot overwrite non-directory {shown goal} with directory {shown source}"
            return false
          | .ok other =>
            setDisk (copyDirectory (← theDisk) place other.path)
            return true
          | .error e =>
            j.complain s!"cannot create directory {shown goal}: {e.words}"
            return false
        else
          j.complain s!"-r not specified; omitting directory {shown source}"
          return false
      | .ok (.file place) =>
        match ← placeOf j goal with
        | .ok (.directory _) =>
          j.complain s!"cannot overwrite directory {shown goal} with non-directory"
          return false
        | .error e =>
          j.complain s!"cannot create regular file {shown goal}: {e.words}"
          return false
        | .ok other =>
          if other = .file place then
            j.complain s!"{shown source} and {shown goal} are the same file"
            return false
          else if has given 'n' && other = .file other.path then return true
          else
            match ← Running.readFile j.cwd source with
            | .error e =>
              j.complain s!"cannot open {shown source} for reading: {e.words}"
              return false
            | .ok bytes =>
              let disk := (← theDisk).putBytes other.path (toNumbers bytes)
              setDisk (if disk.executable.any (·.same place) then
                { disk with executable := other.path :: disk.executable } else disk)
              if has given 'v' then Running.writeLine (bytesOf s!"{shown source} -> {shown goal}")
              return true

/-- Moves files and directories. -/
def mv : Program := fun j =>
  j.withOptions 1 transferRules fun given operands =>
    withTarget j given operands fun source goal => do
      let shown (name : Bytes) := s!"{shellQuoted name}"
      match ← entryOf j source with
      | .error e =>
        j.complain s!"cannot stat {shown source}: {e.words}"
        return false
      | .ok (.vacant _) =>
        j.complain s!"cannot stat {shown source}: No such file or directory"
        return false
      | .ok (.directory place) =>
        match ← placeOf j goal with
        | .ok (.file _) =>
          j.complain s!"cannot overwrite non-directory {shown goal} with directory {shown source}"
          return false
        | .error e =>
          j.complain s!"cannot move {shown source} to {shown goal}: {e.words}"
          return false
        | .ok other =>
          if other.path.isWithin place then
            j.complain s!"cannot move {shown source} to a subdirectory of itself, {shown goal}"
            return false
          else
            setDisk ((copyDirectory (← theDisk) place other.path).unlinkAll place)
            return true
      | .ok (.file place) =>
        match ← placeOf j goal with
        | .ok (.directory _) =>
          j.complain s!"cannot overwrite directory {shown goal} with non-directory"
          return false
        | .error e =>
          j.complain s!"cannot move {shown source} to {shown goal}: {e.words}"
          return false
        | .ok other =>
          if other = .file place then
            j.complain s!"{shown source} and {shown goal} are the same file"
            return false
          else if has given 'n' && other = .file other.path then return true
          else
            let disk ← theDisk
            let wasReadOnly := disk.isReadOnly place
            match disk.link? place with
            | some target =>
              let disk := disk.unlink place
              setDisk { disk with links := (other.path, target) :: disk.links }
            | none =>
              let disk := (copyFile (disk.unlink other.path) place other.path).unlink place
              setDisk (disk.markReadOnly other.path wasReadOnly)
            if has given 'v' then Running.writeLine (bytesOf s!"renamed {shown source} -> {shown goal}")
            return true

/-- Makes links. -/
def ln : Program := fun j =>
  let rules : OptionRules := {
    letters := "bfinrsvt:TLP"
    words := [("force", 'f'), ("symbolic", 's'), ("verbose", 'v'), ("no-dereference", 'n')] }
  j.withOptions 1 rules fun given operands => do
    let operands := match operands with
      | [only] => [only, lastName only]
      | operands => operands
    withTarget j given operands fun source goal => do
      let kind := if has given 's' then "symbolic" else "hard"
      match ← entryOf j goal with
      | .error e =>
        j.complain s!"failed to create {kind} link {shellQuoted goal}: {e.words}"
        return false
      | .ok (.directory _) =>
        j.complain s!"failed to create {kind} link {shellQuoted goal}: File exists"
        return false
      | .ok entry =>
        let there := entry = .file entry.path
        if there && !has given 'f' then
          j.complain s!"failed to create {kind} link {shellQuoted goal}: File exists"
          return false
        else
          let disk ← theDisk
          let disk := if there then disk.unlink entry.path else disk
          if has given 's' then
            setDisk { disk with links := (entry.path, pathOf source) :: disk.links }
            return true
          else
            match disk.find j.cwd (pathOf source) with
            | .ok (.file place) =>
              setDisk (copyFile disk place entry.path)
              return true
            | .ok (.directory _) =>
              j.complain s!"{nameShown source}: hard link not allowed for directory"
              return false
            | .ok (.vacant _) =>
              j.complain s!"failed to access {shellQuoted source}: No such file or directory"
              return false
            | .error e =>
              j.complain s!"failed to access {shellQuoted source}: {e.words}"
              return false

/-! ## Removing -/

/-- Removes files, and directories if that is wanted. -/
def rm : Program := fun j =>
  let rules : OptionRules := {
    letters := "dfiIrRv"
    words := [("dir", 'd'), ("force", 'f'), ("recursive", 'r'), ("verbose", 'v')] }
  j.withOptions 1 rules fun given operands => do
    let force := has given 'f'
    let deep := has given 'r' || has given 'R'
    if operands.isEmpty && !force then j.misused 1 "missing operand"
    else
      let mut well := true
      for name in operands do
        let shown := s!"{shellQuoted name}"
        match ← entryOf j name with
        | .ok (.file place) => setDisk ((← theDisk).unlink place)
        | .ok (.directory place) =>
          let base := lastName name
          if base = ['.'] || base = ['.', '.'] then
            j.complain s!"refusing to remove '.' or '..' directory: skipping {shown}"
            well := false
          else if place.same Path.root && deep then
            j.complain "it is dangerous to operate recursively on '/'"
            j.complain "use --no-preserve-root to override this failsafe"
            well := false
          else if deep then setDisk ((← theDisk).unlinkAll place)
          else if has given 'd' && ((← theDisk).names place).isEmpty then
            setDisk ((← theDisk).unlinkAll place)
          else if has given 'd' then
            j.complain s!"cannot remove {shown}: Directory not empty"
            well := false
          else
            j.complain s!"cannot remove {shown}: Is a directory"
            well := false
        | .ok (.vacant _) =>
          unless force do
            j.complain s!"cannot remove {shown}: No such file or directory"
            well := false
        | .error e =>
          unless force && (e = .notFound || e = .notADirectory) do
            j.complain s!"cannot remove {shown}: {e.words}"
            well := false
      return statusOf well

/-- Removes a directory that is empty, or finds out why that is refused. -/
def removeEmpty (j : Job) (name : Bytes) : Running (Except SystemError Unit) := do
  match ← placeOf j name with
  | .ok (.directory place) =>
    if ((← theDisk).names place).isEmpty then
      setDisk ((← theDisk).unlinkAll place)
      return .ok ()
    else return .error .notEmpty
  | .ok (.file _) => return .error .notADirectory
  | .ok (.vacant _) => return .error .notFound
  | .error e => return .error e

/-- Removes empty directories. -/
def rmdir : Program := fun j =>
  let rules : OptionRules := {
    letters := "pvi", words := [("parents", 'p'), ("ignore-fail-on-non-empty", 'i'), ("verbose", 'v')] }
  j.withOptions 1 rules fun given operands => do
    if operands.isEmpty then j.misused 1 "missing operand"
    else
      let mut well := true
      for name in operands do
        let parts := (splitAtByte '/' name).length
        let mut current := name
        for step in List.range (if has given 'p' then parts else 1) do
          unless (withoutSlashes current).isEmpty || (step > 0 && current = ['.']) do
            match ← removeEmpty j current with
            | .ok () => current := withoutLastName current
            | .error e =>
              unless has given 'i' && e = .notEmpty do
                let what := if step > 0 then "directory " else ""
                j.complain s!"failed to remove {what}{shellQuoted current}: {e.words}"
                well := false
              current := []
      return statusOf well

/-! ## Making -/

/-- Makes a directory, and those around it if that is wanted; or finds out why that is refused. -/
def makeOne (j : Job) (parents : Bool) (name : Bytes) : Running (Except SystemError Unit) := do
  if parents then
    let absolute := name.head? = some '/'
    let parts := (splitAtByte '/' name).filter (!·.isEmpty)
    let mut path : Bytes := if absolute then ['/'] else []
    for part in parts do
      path := if path.isEmpty then part else nameInside path part
      match ← placeOf j path with
      | .ok (.directory _) => pure ()
      | .ok (.file _) =>
        return .error (if path.length < name.length then .notADirectory else .alreadyThere)
      | .ok (.vacant place) => setDisk ((← theDisk).makeDirectory place)
      | .error e => return .error e
    return .ok ()
  else
    match ← placeOf j name with
    | .ok (.vacant place) =>
      setDisk ((← theDisk).makeDirectory place)
      return .ok ()
    | .ok _ => return .error .alreadyThere
    | .error e => return .error e

/-- Makes directories. -/
def mkdir : Program := fun j =>
  let rules : OptionRules := {
    letters := "m:pvZ", words := [("mode", 'm'), ("parents", 'p'), ("verbose", 'v')] }
  j.withOptions 1 rules fun given operands => do
    if operands.isEmpty then j.misused 1 "missing operand"
    else
      let mut well := true
      for name in operands do
        match ← makeOne j (has given 'p') name with
        | .ok () =>
          if has given 'v' then Running.writeLine (bytesOf s!"{j.shownName}: created directory {shellQuoted name}")
        | .error e =>
          j.complain s!"cannot create directory {shellQuoted name}: {e.words}"
          well := false
      return statusOf well

/-- Makes files that are not there. -/
def touch : Program := fun j =>
  let rules : OptionRules := {
    letters := "acd:fhmr:t:", words := [("no-create", 'c'), ("date", 'd'), ("reference", 'r'), ("time", 'x')] }
  j.withOptions 1 rules fun given operands => do
    if operands.isEmpty then j.misused 1 "missing file operand"
    else
      let mut well := true
      for name in operands do
        match ← placeOf j name with
        | .ok (.vacant _) =>
          unless has given 'c' do
            match ← Running.writeFile j.cwd name [] with
            | .ok () => pure ()
            | .error e =>
              j.complain s!"cannot touch {shellQuoted name}: {e.words}"
              well := false
        | .ok _ => pure ()
        | .error e =>
          j.complain s!"cannot touch {shellQuoted name}: {e.words}"
          well := false
      return statusOf well

/-- Whether a mode lets a file be run, and whether it lets it be written; none if it says nothing. -/
def readMode (mode : Bytes) : Option Bool × Option Bool :=
  match readDigits octalDigit? 8 5 0 0 mode with
  | (n, _ + 1, []) => (some (n % 2 = 1 || n / 8 % 2 = 1 || n / 64 % 2 = 1),
      some (n / 2 % 2 = 1 || n / 16 % 2 = 1 || n / 128 % 2 = 1))
  | _ =>
    let change (letter : Char) : Option Bool :=
      (splitAtByte ',' mode).foldl
        (fun known part =>
          let who := part.takeWhile fun c => ['u', 'g', 'o', 'a'].contains c
          match part.drop who.length with
          | '+' :: letters => if letters.contains letter then some true else known
          | '-' :: letters => if letters.contains letter then some false else known
          | '=' :: letters => some (letters.contains letter)
          | _ => known) none
    (change 'x', change 'w')

/-- Changes the modes of files. -/
def chmod : Program := fun j => do
  let operands := j.args.filter fun arg =>
    !(["-R", "-v", "-f", "-c", "--recursive", "--"].any fun o => o.toList = arg)
  match operands with
  | [] => j.misused 1 "missing operand"
  | [mode] => j.misused 1 s!"missing operand after {quoted mode}"
  | mode :: names =>
    let (runs, writes) := readMode mode
    let mut well := true
    for name in names do
      match ← placeOf j name with
      | .ok (.vacant _) =>
        j.complain s!"cannot access {shellQuoted name}: No such file or directory"
        well := false
      | .error e =>
        j.complain s!"cannot access {shellQuoted name}: {e.words}"
        well := false
      | .ok place =>
        let path := place.path
        let disk ← theDisk
        let disk := match runs with
          | some true => { disk with executable := path :: disk.executable }
          | some false => { disk with executable := disk.executable.filter fun p => !p.same path }
          | none => disk
        setDisk (match writes with
          | some flag => disk.markReadOnly path (!flag)
          | none => disk)
    return statusOf well

/-- Makes files have a size. -/
def truncate : Program := fun j =>
  let rules : OptionRules := {
    letters := "cor:s:", words := [("no-create", 'c'), ("size", 's'), ("reference", 'r')] }
  j.withOptions 1 rules fun given operands => do
    match valueOf? given 's', operands with
    | none, _ => j.misused 1 "you must specify either '--size' or '--reference'"
    | _, [] => j.misused 1 "missing file operand"
    | some size, _ =>
      let (sign, digits) := match size with
        | '+' :: rest => (1, rest)
        | '-' :: rest => (2, rest)
        | rest => (0, rest)
      match natOf? digits with
      | none => j.fail 1 s!"Invalid number: {quoted size}"
      | some n =>
        let mut well := true
        for name in operands do
          let before := (← Running.readFile j.cwd name).toOption.getD []
          let length := if sign = 1 then before.length + n
            else if sign = 2 then before.length - n else n
          let after := before.take length ++ List.replicate (length - before.length) '\x00'
          match ← Running.writeFile j.cwd name after with
          | .ok () => pure ()
          | .error e =>
            j.complain s!"cannot open {shellQuoted name} for writing: {e.words}"
            well := false
        return statusOf well

/-! ## Listing -/

/-- The names in a directory that are listed. -/
def listedNames (disk : Disk) (given : List Given) (dir : Path) : List Bytes :=
  let names := (disk.names dir).map bytesOf
  let shown := if has given 'a' then ['.'] :: ['.', '.'] :: names
    else if has given 'A' then names
    else names.filter fun name => name.head? != some '.'
  let sorted := shown.mergeSort bytesBefore
  if has given 'r' then sorted.reverse else sorted

/-- A name with a mark of what it is, if that is wanted. -/
def markedName (disk : Disk) (given : List Given) (dir : Path) (name : Bytes) : Bytes :=
  let place := disk.search false dir (pathOf name)
  match place with
  | .ok (.directory _) => if has given 'F' || has given 'p' then name ++ ['/'] else name
  | .ok (.file path) =>
    if !has given 'F' then name
    else if (disk.link? path).isSome then name ++ ['@']
    else if disk.executable.any (·.same path) then name ++ ['*']
    else name
  | _ => name

/-- The directories below a directory that are listed with it, each with its name, in at most so many
levels. -/
def directoriesBelow (disk : Disk) (given : List Given) : Nat → Bytes → Path → List (Bytes × Path)
  | 0, name, dir => [(name, dir)]
  | levels + 1, name, dir =>
    let inside := (listedNames disk given dir).filter fun n => n != ['.'] && n != ['.', '.']
    (name, dir) :: inside.flatMap fun n =>
      match disk.search false dir (pathOf n) with
      | .ok (.directory place) => directoriesBelow disk given levels (nameInside name n) place
      | _ => []

/-- Lists files and directories. -/
def ls : Program := fun j =>
  let rules : OptionRules := {
    letters := "aAbBcCdfFgGhHiI:klLmnNopqQrRsStTuUvw:xXZ1"
    words := [("all", 'a'), ("almost-all", 'A'), ("directory", 'd'), ("recursive", 'R'), ("reverse", 'r'),
      ("classify", 'F')] }
  j.withOptions 2 rules fun given operands => do
    let disk ← theDisk
    let names := (if operands.isEmpty then [['.']] else operands).mergeSort bytesBefore
    let mut well := true
    let mut files : List Bytes := []
    let mut dirs : List (Bytes × Path) := []
    for name in names do
      match ← placeOf j name with
      | .ok (.vacant _) =>
        j.complain s!"cannot access {shellQuoted name}: No such file or directory"
        well := false
      | .error e =>
        j.complain s!"cannot access {shellQuoted name}: {e.words}"
        well := false
      | .ok (.file _) => files := name :: files
      | .ok (.directory place) =>
        if has given 'd' then files := name :: files else dirs := (name, place) :: dirs
    for name in files.reverse do
      Running.writeLine (markedName disk given j.cwd name)
    let all := if has given 'R' then
        dirs.reverse.flatMap fun (name, place) => directoriesBelow disk given 20 name place
      else dirs.reverse
    let titled := has given 'R' || dirs.length + files.length > 1
    let mut first := files.isEmpty
    for (name, place) in all do
      if titled then
        Running.write ((if first then [] else ['\n']) ++ name ++ [':', '\n'])
      first := false
      for entry in listedNames disk given place do
        Running.writeLine (markedName disk given place entry)
    return if well then success else .code 2

/-- Writes the paths without dots and links of paths. -/
def realpath : Program := fun j =>
  let rules : OptionRules := {
    letters := "emLPqsz", words := [("canonicalize-existing", 'e'), ("canonicalize-missing", 'm')] }
  j.withOptions 1 rules fun given operands => do
    if operands.isEmpty then j.misused 1 "missing operand"
    else
      let mut well := true
      for name in operands do
        match ← placeOf j name with
        | .ok (.vacant place) =>
          if has given 'e' then
            j.complain s!"{nameShown name}: No such file or directory"
            well := false
          else Running.writeLine (bytesOf place.text)
        | .ok place => Running.writeLine (bytesOf place.path.text)
        | .error e =>
          unless has given 'q' do j.complain s!"{nameShown name}: {e.words}"
          well := false
      return statusOf well

/-- Writes where links lead. -/
def readlink : Program := fun j =>
  let rules : OptionRules := {
    letters := "fenmqsvz", words := [("canonicalize", 'f'), ("no-newline", 'n')] }
  j.withOptions 1 rules fun given operands => do
    if operands.isEmpty then j.misused 1 "missing operand"
    else
      let mut well := true
      for name in operands do
        let ending : Bytes := if has given 'n' then [] else ['\n']
        if has given 'f' || has given 'e' || has given 'm' then
          match ← placeOf j name with
          | .ok place => Running.write (bytesOf place.path.text ++ ending)
          | .error _ => well := false
        else
          match ← entryOf j name with
          | .ok (.file place) =>
            match (← theDisk).link? place with
            | some target => Running.write (bytesOf target.text ++ ending)
            | none => well := false
          | _ => well := false
      return statusOf well

end FormatChain.Tools
