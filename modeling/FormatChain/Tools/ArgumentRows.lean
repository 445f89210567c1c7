import FormatChain.Tools.Starting

/-!
# Arguments that come in

A command is started with arguments that come in: with all of them, with so many at a time, with those of
so many lines, or with each line put in the place of a mark.  Arguments stand between blanks, which quotes
and backslashes take into an argument, or between marks of one byte.

* `Taken`, `takeLines`, `takeMarked` : what is read at a time.
* `RowPlan`, `RowPlan.rows` : how arguments are put together, and the command lines that they make.
* `xargs` : the command.
-/

namespace FormatChain.Tools

open FormatChain.Process

/-! ## Reading -/

/-- What is read at a time: the arguments of a line, and whether the line ends with them. -/
structure Taken where
  /-- The arguments. -/
  args : List Bytes
  /-- Whether it counts as a line. -/
  counts : Bool
  deriving Inhabited

/-- Why reading ended early. -/
inductive TakingFault where
  /-- A quote is not closed. -/
  | unmatched (quote : Char)
  /-- An argument takes more bytes than a command line may have. -/
  | tooLong

/-- The wording of why reading ended early. -/
def TakingFault.message : TakingFault → String
  | .unmatched quote =>
    let kind := if quote = '"' then "double" else "single"
    s!"unmatched {kind} quote; by default quotes are special to xargs unless you use the -0 option"
  | .tooLong => "argument line too long"

/-- All that was read, and why reading ended early. -/
abbrev Takings := List Taken × Option TakingFault

/-- Where a reader of lines is. -/
inductive LinePlace where
  /-- Between arguments. -/
  | between
  /-- In an argument. -/
  | inside
  /-- Between quotes. -/
  | quoted (quote : Char)
  /-- After a backslash. -/
  | escaped
  deriving DecidableEq

/-- A reader of lines. -/
structure LineReader where
  /-- Where it is. -/
  place : LinePlace := .between
  /-- The bytes of the argument that was begun, the latest first. -/
  current : Bytes := []
  /-- Whether there was a quote in it. -/
  sawQuote : Bool := false
  /-- The arguments of the line, the latest first. -/
  args : List Bytes := []

/-- The arguments with the one that was begun. -/
def LineReader.finished (r : LineReader) : List Bytes := (r.current.reverse :: r.args).reverse

/-- The lines of what comes in; blanks part arguments unless lines are taken as wholes. An argument that
is the mark of the end ends all. -/
def takeLines (whole : Bool) (stop : Option Bytes) (r : LineReader) : Bytes → Takings
  | [] =>
    match r.place with
    | .quoted quote => ([⟨r.args.reverse, false⟩], some (.unmatched quote))
    | _ =>
      if r.current.isEmpty then ([⟨r.args.reverse, false⟩], none)
      else if stop = some r.current.reverse then
        (if r.args.isEmpty then [] else [⟨r.args.reverse, false⟩], none)
      else ([⟨r.finished, false⟩], none)
  | c :: rest =>
    match r.place with
    | .between =>
      if isSpaceByte c then takeLines whole stop r rest
      else atNormal { r with place := .inside } c rest
    | .inside => atNormal r c rest
    | .quoted quote =>
      if c = '\n' then ([⟨r.args.reverse, false⟩], some (.unmatched quote))
      else if c = quote then takeLines whole stop { r with place := .inside } rest
      else takeLines whole stop { r with current := c :: r.current } rest
    | .escaped => takeLines whole stop { r with place := .inside, current := c :: r.current } rest
where
  /-- A byte of an argument. -/
  atNormal (r : LineReader) (c : Char) (rest : Bytes) : Takings :=
    if c = '\n' then
      if r.current.isEmpty && !r.sawQuote then takeLines whole stop { r with place := .between } rest
      else if stop = some r.current.reverse then
        (if r.args.isEmpty then [] else [⟨r.args.reverse, true⟩], none)
      else
        let (others, fault) := takeLines whole stop {} rest
        (⟨r.finished, true⟩ :: others, fault)
    else if !whole && isBlankByte c then
      if stop = some r.current.reverse then
        (if r.args.isEmpty then [] else [⟨r.args.reverse, false⟩], none)
      else
        takeLines whole stop { args := r.current.reverse :: r.args } rest
    else if c = '\\' then takeLines whole stop { r with place := .escaped } rest
    else if c = '\'' || c = '"' then
      takeLines whole stop { r with place := .quoted c, sawQuote := true } rest
    else takeLines whole stop { r with current := c :: r.current } rest

/-- What stands between marks. -/
def takeMarked (mark : Char) (input : Bytes) : Takings :=
  ((linesEndedBy mark input).map fun line => ⟨[line.body], line.ended⟩, none)

/-! ## Rows -/

/-- How arguments are put together. -/
inductive RowPlan where
  /-- As many as fit. -/
  | all
  /-- So many at a time. -/
  | byCount (n : Nat)
  /-- Those of so many lines at a time. -/
  | byLines (n : Nat)
  /-- Each in the place of a mark. -/
  | inPlaceOf (mark : Bytes)

/-- Arguments that were put together, the latest first, with what is known of them. -/
structure Heap where
  /-- The arguments. -/
  args : List Bytes := []
  /-- How many there are. -/
  count : Nat := 0
  /-- How many bytes they take. -/
  size : Nat := 0
  /-- How many lines they are from. -/
  lines : Nat := 0

/-- The heap with another argument. -/
def Heap.push (h : Heap) (arg : Bytes) : Heap :=
  { h with args := arg :: h.args, count := h.count + 1, size := h.size + arg.length + 1 }

/-- Arguments in rows of at most so many, and of at most so many bytes with what stands before them. -/
def addArgs (most : Option Nat) (room : Nat) (rows : List (List Bytes)) (h : Heap) :
    List Bytes → List (List Bytes) × Heap
  | [] => (rows, h)
  | arg :: rest =>
    let spills := h.count ≠ 0 && room < h.size + arg.length + 1
    let (rows, h) := if spills then (h.args.reverse :: rows, {}) else (rows, h)
    let h := h.push arg
    if most = some h.count then addArgs most room (h.args.reverse :: rows) {} rest
    else addArgs most room rows h rest

/-- The rows of what was read. -/
def rowsOf (most lines : Option Nat) (room : Nat) (rows : List (List Bytes)) (h : Heap) :
    List Taken → List (List Bytes)
  | [] => (if h.count = 0 then rows else h.args.reverse :: rows).reverse
  | taken :: rest =>
    let (rows, h) := addArgs most room rows h taken.args
    let h := if taken.counts then { h with lines := h.lines + 1 } else h
    match lines with
    | some n =>
      if n ≤ h.lines then rowsOf most lines room (if h.count = 0 then rows else h.args.reverse :: rows) {} rest
      else rowsOf most lines room rows h rest
    | none => rowsOf most lines room rows h rest

/-- A text with another one in all places of a third. -/
def withEvery (mark other : Bytes) : Nat → Bytes → Bytes
  | 0, text => text
  | _, [] => []
  | steps + 1, c :: rest =>
    if !mark.isEmpty && mark.isPrefixOf (c :: rest) then
      other ++ withEvery mark other steps ((c :: rest).drop mark.length)
    else c :: withEvery mark other steps rest

/-- The command lines that arguments make; without arguments the command is started once if that is
wanted. -/
def RowPlan.rows (plan : RowPlan) (command : List Bytes) (room : Nat) (once : Bool) (takings : List Taken) :
    List (List Bytes) :=
  let rows := match plan with
    | .all => rowsOf none none room [] {} takings
    | .byCount n => rowsOf (some n) none room [] {} takings
    | .byLines n => rowsOf none (some n) room [] {} takings
    | .inPlaceOf _ => []
  match plan with
  | .inPlaceOf mark =>
    (takings.filter fun taken => !taken.args.isEmpty).map fun taken =>
      let item := taken.args.headD []
      command.take 1 ++ (command.drop 1).map fun word => withEvery mark item (word.length + 1) word
  | _ => if rows.isEmpty && once then [command] else rows.map fun row => command ++ row

/-! ## Starting -/

/-- Starts a command with each of some rows of arguments. The result says whether one went wrong. -/
def startRows (start : Starter) (j : Job) (shows : Bool) (failed : Bool) :
    List (List Bytes) → Running (ExitStatus × Bool)
  | [] => return (.code (if failed then 123 else 0), true)
  | words :: rest => do
    if shows then Running.complain (textOf (joinWith [' '] words))
    match ← startNamed start true { j with name := words.headD [], args := words.drop 1 } with
    | .error e =>
      j.complain s!"{textOf (words.headD [])}: {e.words}"
      return (.code (if e = .notFound then 127 else 126), false)
    | .ok (.code 0) => startRows start j shows failed rest
    | .ok (.code 255) =>
      j.complain s!"{textOf (words.headD [])}: exited with status 255; aborting"
      return (.code 124, false)
    | .ok (.code _) => startRows start j shows true rest
    | .ok (.signal n) =>
      j.complain s!"{textOf (words.headD [])}: terminated by signal {n}"
      return (.code 125, false)

/-! ## Options -/

/-- What a command line asks for. -/
structure RowRequest where
  /-- How arguments are put together. -/
  plan : RowPlan := .all
  /-- What stands between arguments, if not blanks. -/
  mark : Option Char := none
  /-- The argument that ends all. -/
  stop : Option Bytes := none
  /-- Whether the command is started even without arguments. -/
  once : Bool := true
  /-- Whether command lines are shown. -/
  shows : Bool := false
  /-- How many bytes a command line may have. -/
  room : Nat := 131072
  /-- The file with the arguments. -/
  file : Option Bytes := none
  /-- What was said of options that do not go together. -/
  warnings : List String := []

/-- What is wrong with a command line, and whether the help is pointed to. -/
abbrev RowComplaint := String × Bool

/-- The number that an option has. -/
def rowNumber (letter : Char) (least : Int) (value : Bytes) : Except RowComplaint Nat :=
  match value with
  | '-' :: digits =>
    match natOf? digits with
    | some _ => .error (s!"value {textOf value} for -{letter} option should be >= {least}", true)
    | none => .error (s!"invalid number \"{textOf value}\" for -{letter} option", true)
  | _ =>
    match natOf? value with
    | some n =>
      if (n : Int) < least then
        .error (s!"value {textOf value} for -{letter} option should be >= {least}", true)
      else .ok n
    | none => .error (s!"invalid number \"{textOf value}\" for -{letter} option", true)

/-- The byte between arguments that the value of an option stands for. -/
def rowMark (value : Bytes) : Except RowComplaint Char :=
  match value with
  | [c] => .ok c
  | '\\' :: _ =>
    match readEscape { zeroDigits := 3, hexadecimal := true } (value.drop 1) with
    | (.bytes [c], []) => .ok c
    | _ => .error (s!"Invalid escape sequence {textOf value} in input delimiter specification.", false)
  | _ =>
    .error (s!"Invalid input delimiter specification {textOf value}: the delimiter must be either a "
      ++ "single character or an escape sequence starting with \\.", false)

/-- The name of the option that chose a plan, if one did. -/
def RowPlan.option? : RowPlan → Option String
  | .all => none
  | .byCount _ => some "--max-args"
  | .byLines _ => some "--max-lines"
  | .inPlaceOf _ => some "--replace"

/-- The request with the plan that an option asks for. An option that asked for one of another kind is put
out of force. -/
def RowRequest.planned (r : RowRequest) (option : String) (plan : RowPlan) : RowRequest :=
  match r.plan.option? with
  | none => { r with plan }
  | some old =>
    if plan.option? = some old then { r with plan }
    else
      let warning :=
        s!"warning: options {old} and {option} are mutually exclusive, ignoring previous {old} value"
      { r with plan, warnings := r.warnings ++ [warning] }

/-- The request with an option. -/
def RowRequest.adding (r : RowRequest) (g : Given) : Except RowComplaint RowRequest :=
  match g.letter with
  | '0' => .ok { r with mark := some '\x00' }
  | 'd' => do return { r with mark := some (← rowMark g.value) }
  | 'n' => do
    let n ← rowNumber 'n' 1 g.value
    match r.plan with
    | .inPlaceOf _ => return if n = 1 then r else r.planned "--max-args/-n" (.byCount n)
    | _ => return r.planned "--max-args/-n" (.byCount n)
  | 'L' => do return r.planned "-L" (.byLines (← rowNumber 'L' 1 g.value))
  | 'l' => do
    let n ← if g.value.isEmpty then pure 1 else rowNumber 'l' 1 g.value
    return r.planned "--max-lines/-l" (.byLines n)
  | 'I' => .ok (r.planned "--replace/-I/-i" (.inPlaceOf g.value))
  | 'i' =>
    let mark := if g.value.isEmpty then "\x7b\x7d".toList else g.value
    .ok (r.planned "--replace/-I/-i" (.inPlaceOf mark))
  | 'E' => .ok { r with stop := if g.value.isEmpty then none else some g.value }
  | 'e' => .ok { r with stop := if g.value.isEmpty then none else some g.value }
  | 'r' => .ok { r with once := false }
  | 't' => .ok { r with shows := true }
  | 'a' => .ok { r with file := some g.value }
  | 's' => do return { r with room := min r.room (← rowNumber 's' 1 g.value) }
  | 'P' => do
    let _ ← rowNumber 'P' 0 g.value
    return r
  | _ => .ok r

/-- The options of the command. -/
def xargsRules : OptionRules :=
  { letters := "0n:I:i::d:rtL:l::P:s:E:e::a:xpo\x01:", first := true
    words := [("null", '0'), ("max-args", 'n'), ("replace", 'i'), ("delimiter", 'd'), ("eof", 'e'),
      ("no-run-if-empty", 'r'), ("verbose", 't'), ("max-lines", 'l'), ("max-procs", 'P'), ("arg-file", 'a'),
      ("max-chars", 's'), ("exit", 'x'), ("interactive", 'p'), ("open-tty", 'o'),
      ("process-slot-var", '\x01')] }

/-- Starts a command with arguments that come in. -/
def xargs (start : Starter) : Program := fun j =>
  j.withOptions 1 xargsRules fun given operands => do
    match given.foldlM RowRequest.adding ({} : RowRequest) with
    | .error (message, hint) => if hint then j.misused 1 message else j.fail 1 message
    | .ok r =>
      r.warnings.forM j.complain
      let command := if operands.isEmpty then ["echo".toList] else operands
      let input : Except SystemError Bytes ← match r.file with
        | some ['-'] => pure (.ok (← Running.takeInput))
        | some file => Running.readFile j.cwd file
        | none => pure (.ok (← Running.takeInput))
      match input with
      | .error e => j.fail 1 s!"Cannot open input file {quoted (r.file.getD [])}: {e.words}"
      | .ok input =>
        let whole := r.plan matches .inPlaceOf _
        let (takings, fault) := match r.mark with
          | some mark => takeMarked mark input
          | none => takeLines whole r.stop {} input
        let before := if whole then 0 else (command.map fun word => word.length + 1).foldl (· + ·) 0
        let room := r.room - before
        let isFine (taken : Taken) : Bool := taken.args.all fun arg => arg.length < room
        let (takings, fault) : Takings := match takings.find? fun taken => !isFine taken with
          | none => (takings, fault)
          | some broken =>
            let fitting := broken.args.takeWhile fun (arg : Bytes) => arg.length < room
            (takings.takeWhile isFine ++ [⟨fitting, false⟩], some .tooLong)
        let takings := if whole && fault.isSome then takings.dropLast else takings
        let rows := r.plan.rows command room (r.once && fault.isNone) takings
        let slot := valueOf? given '\x01'
        let j := match slot with
          | some name => { j with vars := withSetting j.vars name ['0'] }
          | none => j
        if r.room < before then j.fail 1 "cannot fit single argument within argument list size limit"
        else
          match ← startRows start j r.shows false rows, fault with
          | (_, true), some fault => j.fail 1 fault.message
          | (status, _), _ => return status

end FormatChain.Tools
