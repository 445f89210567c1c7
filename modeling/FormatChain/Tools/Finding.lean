import FormatChain.Process.Options
import FormatChain.Shell.Wildcard

/-!
# Finding files

Files and directories are looked at one by one, from some paths on, and a condition decides what is
done with each.

* `Finding.Test` : a condition.
* `find` : the command.
-/

namespace FormatChain.Tools

open FormatChain.Process FormatChain.Shell

namespace Finding

/-- What is found. -/
structure Item where
  /-- The path, as it is shown. -/
  shown : Bytes
  /-- What it leads to. -/
  place : Place
  /-- How many directories lead to it. -/
  depth : Nat

/-- A condition, which may do something. -/
inductive Test where
  /-- It always holds. -/
  | always
  /-- The name fits a pattern. -/
  | name (fold : Bool) (pattern : Bytes)
  /-- The path fits a pattern. -/
  | path (pattern : Bytes)
  /-- It is a file, or a directory. -/
  | kind (letter : Char)
  /-- Nothing is in it. -/
  | empty
  /-- It has so many bytes, in units: more, less or as many. -/
  | size (compare : Ordering) (count unit : Nat)
  /-- Its path is written. -/
  | print (mark : Char)
  /-- It is taken away. -/
  | delete
  /-- A command is started with it, or with all of them at once. -/
  | exec (words : List Bytes) (atOnce : Bool)
  /-- What is in it is not looked at. -/
  | prune
  /-- The condition does not hold. -/
  | not (test : Test)
  /-- Both hold. -/
  | and (a b : Test)
  /-- One of them holds. -/
  | or (a b : Test)
  deriving Inhabited

/-- Whether a condition does something. -/
def Test.acts : Test → Bool
  | .print _ => true
  | .delete => true
  | .exec _ _ => true
  | .not test => test.acts
  | .and a b => a.acts || b.acts
  | .or a b => a.acts || b.acts
  | _ => false

/-- How deep is looked. -/
structure Limits where
  /-- How deep at least. -/
  least : Nat := 0
  /-- How deep at most. -/
  most : Nat := 1000000
  /-- Whether what is in a directory comes before it. -/
  insideFirst : Bool := false

/-- Reading a condition. -/
abbrev Reading := StateT (List Bytes × Limits) (Except String)

/-- Takes the argument of a test. -/
def argument (test : Bytes) : Reading Bytes := do
  match ← get with
  | (value :: rest, limits) =>
    set (rest, limits)
    return value
  | ([], _) => throw s!"missing argument to {quoted test}"

/-- The words of a command up to the one that ends them. -/
def commandWords (done : List Bytes) : List Bytes → Option (List Bytes × Bool × List Bytes)
  | [] => none
  | [';'] :: rest => some (done.reverse, false, rest)
  | ['\x7b', '\x7d'] :: ['+'] :: rest => some (done.reverse, true, rest)
  | word :: rest => commandWords (word :: done) rest

/-- A number with a sign that says whether more or less is meant. -/
def compared (bytes : Bytes) : Ordering × Bytes :=
  match bytes with
  | '+' :: rest => (.gt, rest)
  | '-' :: rest => (.lt, rest)
  | rest => (.eq, rest)

/-- A single condition. -/
def readPrimary (anyOf : Reading Test) (turned : Reading Test) : Reading Test := do
  match ← get with
  | ([], _) => return .always
  | (word :: rest, limits) =>
    set (rest, limits)
    let number : Reading Nat := do
      let text ← argument word
      match natOf? text with
      | some n => return n
      | none => throw s!"Expected a positive decimal integer argument to {textOf word}, but got {quoted text}"
    match textOf word with
    | "(" =>
      let test ← anyOf
      match ← get with
      | ([')'] :: rest, limits) =>
        set (rest, limits)
        return test
      | _ => throw "invalid expression; I was expecting to find a ')' somewhere but did not see one."
    | "!" | "-not" => return .not (← turned)
    | "-name" => return .name false (← argument word)
    | "-iname" => return .name true (← argument word)
    | "-path" | "-wholename" => return .path (← argument word)
    | "-type" => return .kind ((← argument word).headD 'f')
    | "-empty" => return .empty
    | "-size" =>
      let (compare, digits) := compared (← argument word)
      let (count, _, unit) := readNat digits
      return .size compare count (match unit with
        | ['c'] => 1
        | ['w'] => 2
        | ['k'] => 1024
        | ['M'] => 1048576
        | _ => 512)
    | "-print" => return .print '\n'
    | "-print0" => return .print '\x00'
    | "-delete" =>
      modify fun (words, limits) => (words, { limits with insideFirst := true })
      return .delete
    | "-depth" =>
      modify fun (words, limits) => (words, { limits with insideFirst := true })
      return .always
    | "-prune" => return .prune
    | "-true" => return .always
    | "-false" => return .not .always
    | "-maxdepth" =>
      let n ← number
      modify fun (words, limits) => (words, { limits with most := n })
      return .always
    | "-mindepth" =>
      let n ← number
      modify fun (words, limits) => (words, { limits with least := n })
      return .always
    | "-exec" | "-execdir" =>
      match commandWords [] rest with
      | some (words, atOnce, rest) =>
        set (rest, limits)
        return .exec words atOnce
      | none => throw s!"missing argument to {quoted word}"
    | text =>
      if text.startsWith "-" then throw s!"unknown predicate '{text}'"
      else throw s!"paths must precede expression: '{text}'"

/-- The parts of conditions that need each other. -/
structure Parts where
  /-- Conditions one of which must hold. -/
  anyOf : Unit → Reading Test
  /-- A condition that may be turned round. -/
  turned : Unit → Reading Test

/-- Conditions all of which must hold, in at most so many steps. -/
def readAll (parts : Parts) : Nat → Test → Reading Test
  | 0, done => return done
  | steps + 1, done => do
    match (← get).1 with
    | [] => return done
    | word :: rest =>
      match textOf word with
      | ")" | "-o" | "-or" => return done
      | "-a" | "-and" =>
        modify fun state => (rest, state.2)
        readAll parts steps done
      | _ =>
        let test ← parts.turned ()
        readAll parts steps (.and done test)

/-- Conditions one of which must hold, in at most so many steps. -/
def readAny (parts : Parts) : Nat → Reading Test
  | 0 => return .always
  | steps + 1 => do
    let test ← readAll parts (steps + 1) .always
    match (← get).1 with
    | word :: rest =>
      if textOf word = "-o" || textOf word = "-or" then
        modify fun state => (rest, state.2)
        return .or test (← readAny parts steps)
      else return test
    | [] => return test

/-- The parts of conditions nested up to so deep. -/
def Parts.upTo : Nat → Parts
  | 0 => ⟨fun _ => return .always, fun _ => return .always⟩
  | depth + 1 =>
    { anyOf := fun _ => readAny (upTo depth) (depth + 1)
      turned := fun _ => readPrimary ((upTo depth).anyOf ()) ((upTo depth).turned ()) }

/-- The last name of a path. -/
def lastName (path : Bytes) : Bytes :=
  let trimmed := (path.reverse.dropWhile (· = '/')).reverse
  if trimmed.isEmpty then path.take 1 else (trimmed.reverse.takeWhile (· ≠ '/')).reverse

/-- What is done by the way. -/
structure Doing where
  /-- The things for commands that are started once, by the words of the command. -/
  later : List (List Bytes × List Bytes) := []
  /-- Whether what is in the directory is not looked at. -/
  pruned : Bool := false
  /-- Whether something went wrong. -/
  failed : Bool := false

/-- Looks at what was found. -/
def holds (start : Starter) (j : Job) (item : Item) : Test → StateT Doing Running Bool
  | .always => return true
  | .name fold pattern => do
    let change (bytes : Bytes) := if fold then bytes.map Char.toLower else bytes
    return Wildcard.fits (Wildcard.read { caret := true } (openMarks (change pattern))) (change (lastName item.shown))
  | .path pattern => return Wildcard.fits (Wildcard.read { caret := true } (openMarks pattern)) item.shown
  | .kind letter => return match item.place with
    | .directory _ => letter = 'd'
    | .file _ => letter = 'f'
    | .vacant _ => false
  | .empty => do
    let disk := (← getThe World).disk
    return match item.place with
      | .directory place => (disk.names place).isEmpty
      | .file place => (disk.openBytes Path.root place).toOption.any List.isEmpty
      | .vacant _ => false
  | .size compare count unit => do
    let disk := (← getThe World).disk
    match item.place with
    | .file place =>
      let length := ((disk.openBytes Path.root place).toOption.map List.length).getD 0
      return Ord.compare ((length + unit - 1) / unit) count == compare
    | _ => return Ord.compare (4096 / unit) count == compare
  | .print mark => do
    Running.write (item.shown ++ [mark])
    return true
  | .delete => do
    let w ← getThe World
    match item.place with
    | .file place =>
      set { w with disk := w.disk.unlink place }
      return true
    | .directory place =>
      if (w.disk.names place).isEmpty then
        set { w with disk := w.disk.unlinkAll place }
        return true
      else
        j.complain s!"cannot delete {shellQuoted item.shown}: Directory not empty"
        modify fun d => { d with failed := true }
        return false
    | .vacant _ => return false
  | .exec words atOnce => do
    if atOnce then
      modify fun d =>
        let items := ((d.later.find? fun entry => entry.1 = words).map (·.2)).getD []
        { d with later := (d.later.filter fun entry => entry.1 ≠ words) ++ [(words, items ++ [item.shown])] }
      return true
    else
      let args := words.map fun word => replaced word
      match ← startNamed start true { j with name := args.headD [], args := args.drop 1 } with
      | .ok status => return status.isSuccess
      | .error e =>
        j.complain s!"{quoted (args.headD [])}: {e.words}"
        return false
  | .prune => do
    modify fun d => { d with pruned := true }
    return true
  | .not test => return !(← holds start j item test)
  | .and a b => do if ← holds start j item a then holds start j item b else return false
  | .or a b => do if ← holds start j item a then return true else holds start j item b
where
  /-- A word with the path in the place of braces. -/
  replaced (word : Bytes) : Bytes :=
    match word with
    | '\x7b' :: '\x7d' :: rest => item.shown ++ replaced rest
    | c :: rest => c :: replaced rest
    | [] => []

/-- Looks at a path and at all that is in it, in at most so many steps down. -/
def look (start : Starter) (j : Job) (limits : Limits) (test : Test) : Nat → Item →
    StateT Doing Running Unit
  | 0, _ => return ()
  | steps + 1, item => do
    let here : StateT Doing Running Unit := do
      if limits.least ≤ item.depth then
        let _ ← holds start j item test
    modify fun d => { d with pruned := false }
    if !limits.insideFirst then here
    let pruned := (← get).pruned && !limits.insideFirst
    match item.place with
    | .directory place =>
      if item.depth < limits.most && !pruned then
        let disk := (← getThe World).disk
        for name in disk.names place do
          let inner := place.join ⟨name⟩
          let shown := if item.shown.getLast? = some '/' then item.shown ++ bytesOf name
            else item.shown ++ '/' :: bytesOf name
          match disk.search false Path.root inner with
          | .ok found => look start j limits test steps ⟨shown, found, item.depth + 1⟩
          | .error _ => pure ()
    | _ => pure ()
    if limits.insideFirst then here

end Finding

/-- How deep directories may be nested. -/
def directoryDepth : Nat := 256

/-- Looks for files. -/
def find (start : Starter) : Program := fun j => do
  let isPath (arg : Bytes) : Bool :=
    match arg with
    | '-' :: _ :: _ => false
    | ['('] => false
    | ['!'] => false
    | _ => true
  let args := j.args.dropWhile fun arg => ["-H".toList, "-L".toList, "-P".toList].contains arg
  let paths := args.takeWhile isPath
  let words := args.drop paths.length
  let depth := words.length + 2
  match ((Finding.Parts.upTo depth).anyOf ()).run (words, {}) with
  | .error text => j.fail 1 text
  | .ok (test, (rest, limits)) =>
    if !rest.isEmpty then j.fail 1 "invalid expression; you have too many ')'"
    else
      let test := if test.acts then test else .and test (.print '\n')
      let all : StateT Finding.Doing Running Unit := do
        for path in if paths.isEmpty then [['.']] else paths do
          let disk := (← getThe World).disk
          match disk.search false j.cwd (pathOf path) with
          | .ok (.vacant _) =>
            j.complain s!"{quoted path}: No such file or directory"
            modify fun d => { d with failed := true }
          | .ok place => Finding.look start j limits test directoryDepth ⟨path, place, 0⟩
          | .error e =>
            j.complain s!"{quoted path}: {e.words}"
            modify fun d => { d with failed := true }
        for (command, items) in (← get).later do
          match ← startNamed start true { j with name := command.headD [], args := command.drop 1 ++ items } with
          | .ok status =>
            if !status.isSuccess then modify fun d => { d with failed := true }
          | .error e =>
            j.complain s!"{quoted (command.headD [])}: {e.words}"
            modify fun d => { d with failed := true }
      let (_, after) ← all.run {}
      return statusOf (!after.failed)

end FormatChain.Tools
