import FormatChain.Shell.Builtin.Naming
import FormatChain.Shell.Builtin.Texts

/-!
# Commands for directories

The commands of a shell that go to directories and write them, and the one that says what new files may
not have.

* `goTo`, `changeDirectory`, `writeDirectory` : the directory.
* `pushDirectory`, `popDirectory`, `listDirectories` : the directories to go back to.
* `setMask` : what new files may not have.
-/

namespace FormatChain.Shell

open FormatChain.Process

/-! ## The directory -/

/-- A path without dots, given the names before, last first. -/
def withoutDots (done : List Bytes) : List Bytes → List Bytes
  | [] => done.reverse
  | name :: rest =>
    if name.isEmpty || name = ['.'] then withoutDots done rest
    else if name = ['.', '.'] then withoutDots (done.drop 1) rest
    else withoutDots (name :: done) rest

/-- A path without dots. -/
def plainPath (path : Bytes) : Bytes :=
  let start : Bytes := match path with
    | '/' :: '/' :: '/' :: _ => ['/']
    | '/' :: '/' :: _ => ['/', '/']
    | _ => ['/']
  start ++ joinWith ['/'] (withoutDots [] (splitAtByte '/' path))

/-- The directory, as the shell got there. -/
def currentDirectory : Acting Bytes := do
  let s ← shell
  match (← variableOf "PWD".toList).value with
  | some bytes =>
    match (← get).world.disk.locateDirectory Path.root (pathOf bytes) with
    | .ok place => return if place.same s.cwd && bytes.head? = some '/' then bytes else bytesOf s.cwd.text
    | .error _ => return bytesOf s.cwd.text
  | none => return bytesOf s.cwd.text

/-- Goes to a directory by a path without dots. Tells why that is refused. -/
def goTo (physical : Bool) (path : Bytes) : Acting (Option SystemError) := do
  let scene ← get
  match scene.world.disk.locateDirectory Path.root (pathOf path) with
  | .error e => return some e
  | .ok place =>
    let before ← currentDirectory
    let shown := if physical then bytesOf place.text else path
    changeShell fun s => { s with cwd := place }
    storeVariable "OLDPWD".toList { value := some before, exported := true }
    storeVariable "PWD".toList { value := some shown, exported := true }
    return none

/-- The directory that a name stands for in one of the directories that are looked into for it. -/
def inSearched? (target : Bytes) : Acting (Option Bytes) := do
  let first := target.takeWhile (· ≠ '/')
  if target.isEmpty || first.isEmpty || first = ['.'] || first = ['.', '.'] then return none
  match ← valueOf? "CDPATH".toList with
  | none => return none
  | some directories =>
    if directories.isEmpty then return none
    let scene ← get
    let candidates := (splitAtByte ':' directories).filter fun dir => !dir.isEmpty
    return (candidates.map (· ++ '/' :: target)).find? fun path =>
      (scene.world.disk.locateDirectory scene.shell.cwd (pathOf path)).toOption.isSome

/-- Goes to a directory that is named, through dots or through links. Tells why that is refused. -/
def goToNamed (physical : Bool) (target : Bytes) : Acting (Option SystemError) := do
  let rich : Bool := (← shell).dialect = .rich
  let before ← currentDirectory
  let path := if target.isEmpty then before
    else if target.head? = some '/' then plainPath target
    else plainPath (before ++ '/' :: target)
  let scene ← get
  let reached := scene.world.disk.locateDirectory scene.shell.cwd
    (pathOf (if target.isEmpty then ['.'] else target))
  match reached with
  | .error e => if physical || rich then return some e else goTo physical path
  | .ok _ => goTo physical path

/-- Goes to another directory. -/
def changeDirectory (args : List Bytes) : Acting Nat := do
  let rich : Bool := (← shell).dialect = .rich
  let (physical, args) ← if rich then do
      let (flags, args) ← flagsOf "eLP@" args
      pure (hasFlag flags 'P', args)
    else do
      let flagged := args.takeWhile fun arg => arg = ['-', 'P'] || arg = ['-', 'L']
      let rest := args.drop flagged.length
      match rest.head? with
      | some ('-' :: c :: _) => if c ≠ '-' then failWith 2 (bytesOf "Illegal option -" ++ [c])
      | _ => pure ()
      pure (flagged.getLast? == some ['-', 'P'], if rest.head? = some ['-', '-'] then rest.drop 1 else rest)
  if rich && args.length > 1 then
    complainText "too many arguments"
    return 1
  let home := (← valueOf? "HOME".toList)
  let old := (← valueOf? "OLDPWD".toList)
  let (target, shows) ← match args with
    | [] =>
      if rich && home.isNone then
        complainText "HOME not set"
        setStatus 1
        throw .fault
      pure (home.getD [], false)
    | ['-'] :: _ =>
      if rich && old.isNone then
        complainText "OLDPWD not set"
        setStatus 1
        throw .fault
      pure (old.getD [], true)
    | dir :: _ => pure (dir, false)
  let searched ← inSearched? target
  match ← goToNamed physical (searched.getD target) with
  | some e =>
    match (← shell).dialect with
    | .common => failWith 2 (bytesOf "can't cd to " ++ target)
    | .rich =>
      complain (target ++ bytesOf s!": {e.words}")
      return 1
  | none =>
    if shows || searched.isSome then
      let _ ← put 1 ((← currentDirectory) ++ ['\n'])
    return 0

/-- Writes the directory. -/
def writeDirectory (args : List Bytes) : Acting Nat := do
  let physical ← match (← shell).dialect with
    | .rich => do
      let (flags, _) ← flagsOf "LP" args
      pure (((flags.map (·.1)).getLast?.getD 'L') == 'P')
    | .common =>
      match args.head? with
      | some ('-' :: c :: _) =>
        if c ≠ 'P' && c ≠ 'L' && c ≠ '-' then failWith 2 (bytesOf "Illegal option -" ++ [c])
        else pure (args.contains ['-', 'P'])
      | _ => pure false
  let path ← if physical then do pure (bytesOf (← shell).cwd.text) else currentDirectory
  writeOut (path ++ ['\n'])

/-! ## Directories to go back to -/

/-- A directory with a tilde for the home. -/
def withTilde (home path : Bytes) : Bytes :=
  if home.length < 2 then path
  else if path = home then ['~']
  else if (home ++ ['/']).isPrefixOf path then '~' :: path.drop home.length
  else path

/-- The directory and those to go back to. -/
def knownDirectories : Acting (List Bytes) := do return (← currentDirectory) :: (← shell).directories

/-- Writes the directory and those to go back to, in one line. -/
def showDirectories : Acting Nat := do
  let home := (← valueOf? "HOME".toList).getD []
  let _ ← put 1 (joinWith [' '] ((← knownDirectories).map (withTilde home)) ++ ['\n'])
  return 0

/-- The place in a row of directories that an argument with a sign tells. -/
def placeIn? (count : Nat) (arg : Bytes) : Option (Option Nat) :=
  match arg with
  | '+' :: digits => (natOf? digits).map fun n => if n < count then some n else none
  | '-' :: digits => (natOf? digits).map fun n => if n < count then some (count - 1 - n) else none
  | _ => none

/-- Refuses a place in a row of directories. -/
def refusePlace (arg : Bytes) : Acting Nat := do
  complain (arg ++ bytesOf ": directory stack index out of range")
  return 1

/-- Goes to a directory, and keeps others to go back to. -/
def goKeeping (target : Bytes) (kept : List Bytes) : Acting Nat := do
  match ← goToNamed false target with
  | some e =>
    complain (target ++ bytesOf s!": {e.words}")
    return 1
  | none =>
    changeShell fun s => { s with directories := kept }
    showDirectories

/-- Goes to a directory, and keeps the one before. -/
def pushDirectory (args : List Bytes) : Acting Nat := do
  let stays := args.head? = some ['-', 'n']
  let args := if stays || args.head? = some ['-', '-'] then args.drop 1 else args
  let all ← knownDirectories
  match args with
  | [] =>
    match all with
    | here :: next :: rest => goKeeping next (here :: rest)
    | _ =>
      complainText "no other directory"
      return 1
  | [arg] =>
    match placeIn? all.length arg with
    | some none => refusePlace arg
    | some (some n) =>
      let turned := all.drop n ++ all.take n
      goKeeping (turned.headD []) (turned.drop 1)
    | none =>
      match arg with
      | '-' :: _ :: _ => misuse (arg ++ bytesOf ": invalid number")
      | _ =>
        if stays then
          changeShell fun s => { s with directories := arg :: s.directories }
          showDirectories
        else goKeeping arg all
  | _ =>
    complainText "too many arguments"
    return 1

/-- Goes back to the directory before. -/
def popDirectory (args : List Bytes) : Acting Nat := do
  let args := if args.head? = some ['-', 'n'] then args.drop 1 else args
  let all ← knownDirectories
  match all, args with
  | [_], _ =>
    complainText "directory stack empty"
    return 1
  | _ :: next :: rest, [] => goKeeping next rest
  | _, arg :: _ =>
    match placeIn? all.length arg with
    | some (some 0) => goKeeping (all.getD 1 []) (all.drop 2)
    | some (some n) =>
      changeShell fun s => { s with directories := s.directories.eraseIdx (n - 1) }
      showDirectories
    | some none => refusePlace arg
    | none => misuse (arg ++ bytesOf ": invalid number")
  | [], _ => return 1

/-- Writes the directory and those to go back to. -/
def listDirectories (args : List Bytes) : Acting Nat := do
  let places := args.filter fun arg => (placeIn? 0 arg).isSome
  let letters := (args.filter fun arg => (placeIn? 0 arg).isNone).flatMap (·.drop 1)
  match letters.find? fun c => !(['c', 'l', 'p', 'v'].contains c) with
  | some c => misuse ('-' :: c :: bytesOf ": invalid number")
  | none =>
    if letters.contains 'c' then
      changeShell fun s => { s with directories := [] }
      return 0
    let home := (← valueOf? "HOME".toList).getD []
    let all ← knownDirectories
    let shown := if letters.contains 'l' then all else all.map (withTilde home)
    match places.getLast? with
    | some arg =>
      match placeIn? shown.length arg with
      | some (some n) => writeOut (shown.getD n [] ++ ['\n'])
      | _ => refusePlace arg
    | none =>
      if letters.contains 'v' then
        writeOut (shown.zipIdx.flatMap fun (path, n) => padStart 2 (digitsOf n) ++ [' ', ' '] ++ path ++ ['\n'])
      else if letters.contains 'p' then writeOut (endedLines shown)
      else writeOut (joinWith [' '] shown ++ ['\n'])

/-! ## What new files may not have -/

/-- The bits that letters of rights stand for. -/
def rightBits (letters : Bytes) : Option Nat :=
  letters.foldlM (fun n c => match c with
    | 'r' => some (n ||| 4)
    | 'w' => some (n ||| 2)
    | 'x' => some (n ||| 1)
    | 'X' => some (n ||| 1)
    | 's' => some n
    | 't' => some n
    | _ => none) 0

/-- A mask after one change of it by letters, or the byte of it that means nothing. -/
def changedMask (mask : Nat) (change : Bytes) : Except Char Nat := do
  let who := change.takeWhile fun c => ['u', 'g', 'o', 'a'].contains c
  let everyone := who.isEmpty || who.contains 'a'
  let factors := (if everyone || who.contains 'u' then [64] else [])
    ++ (if everyone || who.contains 'g' then [8] else []) ++ (if everyone || who.contains 'o' then [1] else [])
  match change.drop who.length with
  | sign :: letters =>
    if !(['+', '-', '='].contains sign) then throw sign
    match rightBits letters with
    | none => throw (letters.headD sign)
    | some bits =>
      return factors.foldl (fun mask factor =>
        let now := mask / factor % 8
        let next := if sign = '+' then now &&& (7 - bits)
          else if sign = '-' then now ||| bits
          else 7 - bits
        mask - now * factor + next * factor) mask
  | [] => throw '\x00'

/-- The rights of new files, as letters. -/
def rightsShown (mask : Nat) : Bytes :=
  let rights (n : Nat) : Bytes :=
    let allowed := 7 - n
    (if allowed / 4 % 2 = 1 then ['r'] else []) ++ (if allowed / 2 % 2 = 1 then ['w'] else [])
      ++ (if allowed % 2 = 1 then ['x'] else [])
  bytesOf "u=" ++ rights (mask / 64 % 8) ++ bytesOf ",g=" ++ rights (mask / 8 % 8)
    ++ bytesOf ",o=" ++ rights (mask % 8)

/-- Sets or writes what new files may not have. -/
def setMask (args : List Bytes) : Acting Nat := do
  let s ← shell
  let rich : Bool := s.dialect = .rich
  let (flags, args) ← if rich then flagsOf "pS" args
    else match args with
      | ['-', 'S'] :: rest => pure ([('S', [])], rest)
      | args => pure ([], args)
  match args with
  | [] =>
    let shown := if hasFlag flags 'S' then rightsShown s.mask else padZeros 4 (octalText s.mask)
    let before := if hasFlag flags 'p' then bytesOf (if hasFlag flags 'S' then "umask -S " else "umask ") else []
    writeOut (before ++ shown ++ ['\n'])
  | arg :: _ =>
    if arg.head?.any Char.isDigit then
      match readDigits octalDigit? 8 arg.length 0 0 arg with
      | (n, _ + 1, []) =>
        changeShell fun s => { s with mask := n % 512 }
        return 0
      | _ =>
        match s.dialect with
        | .common => fail s!"Illegal number: {textOf arg}"
        | .rich =>
          complain (arg ++ bytesOf ": octal number out of range")
          return 1
    else
      match (splitAtByte ',' arg).foldlM changedMask s.mask with
      | .ok mask =>
        changeShell fun s => { s with mask }
        if hasFlag flags 'S' then writeOut (rightsShown mask ++ ['\n']) else return 0
      | .error c =>
        match s.dialect with
        | .common => fail s!"Illegal mode: {textOf arg}"
        | .rich =>
          complain ('\x60' :: c :: bytesOf "': invalid symbolic mode operator")
          return 1

end FormatChain.Shell
