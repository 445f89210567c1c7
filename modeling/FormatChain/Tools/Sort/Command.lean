import FormatChain.Process.Numeral
import FormatChain.Process.Options
import FormatChain.Tools.Sort.Key

/-!
# Lines in order

Lines are put in order by their keys; lines whose keys are the same are compared as a whole.

* `Sorting` : what is asked for.
* `Sorting.sorted`, `Sorting.merged`, `Sorting.disorder?` : lines put in order, merged, and checked.
* `sort` : the command.
-/

namespace FormatChain.Tools

open FormatChain.Process

/-- How lines are sorted. -/
structure Sorting where
  /-- The keys. -/
  keys : List SortKey
  /-- What stands between fields. -/
  separator : Option Char
  /-- Whether equal lines stay in their order. -/
  stable : Bool
  /-- Whether of equal lines only the first is kept. -/
  once : Bool
  /-- Whether the order of whole lines is the other way round. -/
  backwards : Bool

/-- The order of two lines by their keys alone, or as a whole if there are no keys. -/
def Sorting.compareKeys (s : Sorting) (a b : Bytes) : Ordering :=
  if s.keys.isEmpty then compareBytes a b
  else
    s.keys.foldl
      (fun order key =>
        if order = .eq then key.order.compare (key.part s.separator a) (key.part s.separator b) else order)
      .eq

/-- The order of two lines. -/
def Sorting.compare (s : Sorting) (a b : Bytes) : Ordering :=
  let byKeys := if s.keys.isEmpty then Ordering.eq else s.compareKeys a b
  if byKeys != .eq || (!s.keys.isEmpty && (s.stable || s.once)) then byKeys
  else
    let order := compareBytes a b
    if s.backwards then order.swap else order

/-- The lines without those that are equal to the one kept before them. -/
def onceEach (same : Bytes → Bytes → Bool) (kept : List Bytes) : List Bytes → List Bytes
  | [] => kept.reverse
  | line :: rest =>
    match kept with
    | last :: _ => onceEach same (if same last line then kept else line :: kept) rest
    | [] => onceEach same [line] rest

/-- The lines, of equal ones only the first if that is asked for. -/
def Sorting.reduced (s : Sorting) (lines : List Bytes) : List Bytes :=
  if s.once then onceEach (fun a b => s.compare a b == .eq) [] lines else lines

/-- The lines in order. -/
def Sorting.sorted (s : Sorting) (lines : List Bytes) : List Bytes :=
  s.reduced (lines.mergeSort fun a b => s.compare a b != .gt)

/-- Two files put together, each taken for one in order. -/
def Sorting.mergeTwo (s : Sorting) : Nat → List Bytes → List Bytes → List Bytes → List Bytes
  | steps + 1, done, a :: as, b :: bs =>
    if s.compare a b != .gt then s.mergeTwo steps (a :: done) as (b :: bs)
    else s.mergeTwo steps (b :: done) (a :: as) bs
  | _, done, as, bs => done.reverse ++ as ++ bs

/-- Files put together, each taken for one in order. -/
def Sorting.merged (s : Sorting) (files : List (List Bytes)) : List Bytes :=
  s.reduced (files.foldl (fun done lines => s.mergeTwo (done.length + lines.length) [] done lines) [])

/-- The first line that does not follow the one before it, with its number. -/
def Sorting.disorder? (s : Sorting) (n : Nat) : List Bytes → Option (Nat × Bytes)
  | a :: b :: rest =>
    let order := s.compare a b
    let fine := if s.once then order == .lt else order != .gt
    if fine then Sorting.disorder? s (n + 1) (b :: rest) else some (n + 1, b)
  | _ => none

/-! ## Showing keys -/

/-- The start of the part of a text by which it is compared, and the text from there on that counts: for
numbers the number alone. -/
def SortOrder.tight (o : SortOrder) (text : Bytes) : Bytes × Bytes :=
  let body := text.dropWhile isBlankByte
  let within (length : Nat) : Bytes × Bytes := (body, body.take length)
  match o.kind with
  | .months => within (if monthRank body = 0 then 0 else 3)
  | .numerals =>
    within (match Numeral.read? (body.dropWhile isSpaceByte) with
      | some (_, rest) => body.length - rest.length
      | none => 0)
  | .numbers => within (numberLength body)
  | .sizes =>
    let length := numberLength body
    let unit := (body.drop length).head?
    within (if 0 < length && (unit.map fun c => "KkMGTPEZY".toList.contains c).getD false then length + 1 else length)
  | _ => (body, body)
where
  /-- How many bytes of a number there are at the start. -/
  numberLength (body : Bytes) : Nat :=
    let sign := if body.head? = some '-' then 1 else 0
    let whole := ((body.drop sign).takeWhile Char.isDigit).length
    let rest := body.drop (sign + whole)
    let fraction := match rest with
      | '.' :: after => if whole = 0 && ((after.head?.map Char.isDigit).getD false) = false then 0
          else 1 + (after.takeWhile Char.isDigit).length
      | _ => 0
    if whole = 0 && fraction = 0 then 0 else sign + whole + fraction

/-- How many places bytes take on a line. -/
def placesTaken (bytes : Bytes) : Nat := (bytes.filter fun c => isPrintByte c || c = '\t').length

/-- The line below a line that marks one of its keys. -/
def SortKey.marked (k : SortKey) (separator : Option Char) (line : Bytes) : Bytes :=
  let part := k.part separator line
  let fields := afterFields separator k.field line
  let fields := if k.order.skipStart then fields.dropWhile isBlankByte else fields
  let start := fields.drop k.byte
  let wholeLine := k.field = 0 && k.byte = 0
  let tightens := match k.order.kind with
    | .bytes => k.order.skipStart && wholeLine
    | .versions => k.order.skipStart && wholeLine
    | .chance => k.order.skipStart && wholeLine
    | _ => true
  let (body, counted) := if tightens then k.order.tight part else (part, part)
  let before := line.length - start.length + (part.length - body.length)
  let offset := placesTaken (line.take before)
  let width := placesTaken counted
  List.replicate offset ' '
    ++ (if width = 0 then "^ no match for key\n".toList else List.replicate width '_' ++ ['\n'])

/-- A line with its keys marked below it. -/
def Sorting.explained (s : Sorting) (line : Bytes) : Bytes :=
  let whole : SortKey := { field := 0, byte := 0, order := {} }
  let keys := if s.keys.isEmpty || !(s.once || s.stable) then s.keys ++ [whole] else s.keys
  (line.map fun c => if c = '\t' then '>' else c) ++ '\n' :: keys.flatMap fun key => key.marked s.separator line

/-! ## Options -/

/-- The options of the command; those that are words only have letters that nobody writes. -/
def sortRules : OptionRules :=
  { letters := "bdfghiMnRrVcCmo:sS:t:T:uzk:y:\x01::\x02:\x03:\x04:\x05:\x06:\x07"
    words := [("ignore-leading-blanks", 'b'), ("dictionary-order", 'd'), ("ignore-case", 'f'),
      ("general-numeric-sort", 'g'), ("human-numeric-sort", 'h'), ("ignore-nonprinting", 'i'),
      ("month-sort", 'M'), ("numeric-sort", 'n'), ("reverse", 'r'), ("version-sort", 'V'),
      ("random-sort", 'R'), ("merge", 'm'), ("output", 'o'), ("stable", 's'), ("buffer-size", 'S'),
      ("field-separator", 't'), ("temporary-directory", 'T'), ("unique", 'u'), ("zero-terminated", 'z'),
      ("key", 'k'), ("check", '\x01'), ("sort", '\x02'), ("parallel", '\x03'), ("batch-size", '\x04'),
      ("compress-program", '\x05'), ("random-source", '\x05'), ("files0-from", '\x06'), ("debug", '\x07')] }

/-- The words for kinds of order. -/
def sortWords : Choices Char :=
  [(["general-numeric"], 'g'), (["human-numeric"], 'h'), (["month"], 'M'), (["numeric"], 'n'),
    (["random"], 'R'), (["version"], 'V')]

/-- The words for ways of checking. -/
def checkWords : Choices Char := [(["quiet", "silent"], 'C'), (["diagnose-first"], 'c')]

/-- What a command line of the sorter asks for. -/
structure SortRequest where
  /-- The order of what has none of its own. -/
  order : SortOrder := {}
  /-- The keys. -/
  keys : List SortKey := []
  /-- What stands between fields. -/
  separator : Option Char := none
  /-- The letter of the way of checking, if the order is only checked. -/
  check : Option Char := none
  /-- The file that is written. -/
  output : Option Bytes := none
  /-- The files. -/
  files : List Bytes := []

/-- What is wrong with a command line: its wording, and whether the help is pointed to. -/
structure SortFault where
  /-- The wording. -/
  message : String
  /-- Whether the help is pointed to. -/
  hint : Bool := false
  /-- What more is said. -/
  more : Option String := none

/-- The fault of a wording. -/
def SortFault.plain (message : String) : SortFault := { message }

/-- The number that a command line ends with that has the fault. -/
def SortFault.status (f : SortFault) : Nat := if f.hint then 1 else 2

/-- The fault of letters that do not go together. -/
def SortFault.unlike (letters : List Char) : SortFault :=
  let option := quoted ('-' :: letters)
  .plain s!"options {option} are incompatible"

/-- The count that the value of an option is. -/
def countOf (option : String) (value : Bytes) : Except SortFault Nat :=
  match amountAt "" 0 greatestUnsigned value with
  | .ok n => .ok n.toNat
  | .error .suffix => .error (.plain s!"invalid suffix in {option} argument {quoted value}")
  | .error .beyond => .error (.plain s!"{option} argument {quoted value} too large")
  | .error .none => .error (.plain s!"invalid {option} argument {quoted value}")

/-- The request with an option. -/
def SortRequest.adding (r : SortRequest) (g : Given) : Except SortFault SortRequest :=
  let asOrder (letter : Char) : SortRequest :=
    if letter = 'b' then { r with order := { r.order with skipStart := true, skipStop := true } }
    else { r with order := r.order.adding letter }
  let checked (letter : Char) : Except SortFault SortRequest :=
    if r.check.isSome && r.check != some letter then .error (.plain "options '-cC' are incompatible")
    else .ok { r with check := some letter }
  let chosen (choices : Choices Char) (word : String) : Except SortFault Char :=
    (choose choices word g.value).mapError fun message => { message, hint := true }
  match g.letter with
  | 'k' =>
    match SortKey.read g.value with
    | .ok key => .ok { r with keys := r.keys ++ [key] }
    | .error message => .error (.plain message)
  | 't' =>
    let tab : Except SortFault Char := match g.value with
      | [] => .error (.plain "empty tab")
      | [c] => .ok c
      | ['\\', '0'] => .ok '\x00'
      | value => .error (.plain s!"multi-character tab {quoted value}")
    match tab with
    | .ok c =>
      if r.separator.isSome && r.separator != some c then .error (.plain "incompatible tabs")
      else .ok { r with separator := some c }
    | .error fault => .error fault
  | 'o' =>
    if r.output.isSome && r.output != some g.value then .error (.plain "multiple output files specified")
    else .ok { r with output := some g.value }
  | 'c' => checked 'c'
  | 'C' => checked 'C'
  | '\x01' => if g.value.isEmpty then checked 'c' else do checked (← chosen checkWords "--check")
  | '\x02' => do return asOrder (← chosen sortWords "--sort")
  | '\x03' => do
    if (← countOf "--parallel" g.value) = 0 then throw (.plain "number in parallel must be nonzero")
    return r
  | '\x04' => do
    let shown := quoted g.value
    if (← countOf "--batch-size" g.value) < 2 then
      throw { message := s!"invalid --batch-size argument {shown}", more := some "minimum --batch-size argument is '2'" }
    return r
  | 'S' =>
    let (_, count, unit) := readNat g.value
    if count = 0 then .error (.plain s!"invalid -S argument {quoted g.value}")
    else if unit.length ≤ 1 && unit.all fun c => "%bKkMGTPEZY".toList.contains c then .ok r
    else .error (.plain s!"invalid suffix in -S argument {quoted g.value}")
  | letter =>
    if letter = 'b' || (SortKind.of? letter).isSome || ['d', 'f', 'i', 'r'].contains letter then
      .ok (asOrder letter)
    else .ok r

/-- The options of the old way of writing keys taken out of arguments, in at most so many steps: the keys
and the other arguments. -/
def takeOldKeys : Nat → List Bytes → Except String (List SortKey × List Bytes)
  | 0, args => .ok ([], args)
  | _, [] => .ok ([], [])
  | steps + 1, arg :: rest => do
    let stop := match rest with
      | ('-' :: c :: more) :: _ => if c.isDigit then some ('-' :: c :: more) else none
      | _ => none
    match ← SortKey.readOld? arg stop with
    | some key =>
      let (keys, others) ← takeOldKeys steps (if stop.isSome then rest.drop 1 else rest)
      return (key :: keys, others)
    | none =>
      if arg = ['-', '-'] then return ([], arg :: rest)
      else
        let (keys, others) ← takeOldKeys steps rest
        return (keys, arg :: others)

/-- The request that options make, or what is wrong with them. -/
def readRequest (given : List Given) (old : List SortKey) (files : List Bytes) :
    Except SortFault SortRequest := do
  let r ← given.foldlM SortRequest.adding { files, keys := old }
  let keys := r.keys.map fun key => if key.order.isPlain && !key.order.backwards then { key with order := r.order } else key
  let orders := if keys.isEmpty then [r.order] else keys.map (·.order)
  match orders.findSome? SortOrder.conflict? with
  | some letters => throw (SortFault.unlike letters)
  | none =>
    match r.check with
    | some letter =>
      match files with
      | _ :: extra :: _ =>
        throw (.plain s!"extra operand {shellQuoted extra} not allowed with -{String.singleton letter}")
      | _ =>
        if r.output.isSome then
          throw (SortFault.unlike [letter, 'o'])
    | none => pure ()
    return { r with keys }

/-! ## The command -/

/-- The lines of the files, or the number of a complaint. -/
def sortInput (j : Job) (mark : Char) : List Bytes → Running (Except ExitStatus (List (List Bytes)))
  | [] => return .ok []
  | name :: rest => do
    let found ← if name = ['-'] then
        match (← get).inputFault with
        | some e => pure (.error e)
        | none => pure (.ok (← Running.takeInput))
      else Running.readFile j.cwd name
    match found with
    | .ok bytes => return (← sortInput j mark rest).map ((linesEndedBy mark bytes).map (·.body) :: ·)
    | .error .isADirectory => return .error (← j.fail 2 s!"read failed: {nameShown name}: Is a directory")
    | .error e => return .error (← j.fail 2 s!"cannot read: {nameShown name}: {e.words}")

/-- Puts lines in order, merges them or checks them. -/
def runSort (j : Job) (given : List Given) (r : SortRequest) : Running ExitStatus := do
  let mark := if has given 'z' then '\x00' else '\n'
  let s : Sorting := {
    keys := if r.keys.isEmpty && !r.order.isPlain then [{ field := 0, byte := 0, order := r.order }] else r.keys
    separator := r.separator
    stable := has given 's'
    once := has given 'u'
    backwards := r.order.backwards }
  let names := if r.files.isEmpty then [['-']] else r.files
  match ← sortInput j mark names with
  | .error status => return status
  | .ok files =>
    match r.check with
    | some letter =>
      match s.disorder? 1 files.flatten with
      | none => return success
      | some (n, line) =>
        if letter = 'C' then return .code 1
        else j.fail 1 s!"{textOf (names.headD [])}:{n}: disorder: {textOf line}"
    | none =>
      let lines := if has given 'm' then s.merged files else s.sorted files.flatten
      let debugging := has given '\x07' && r.output.isNone
      let output := lines.flatMap fun line => if debugging then s.explained line else line ++ [mark]
      match r.output with
      | none =>
        Running.write output
        return success
      | some file =>
        match ← Running.writeFile j.cwd file output with
        | .ok () => return success
        | .error e => j.fail 2 s!"open failed: {nameShown file}: {e.words}"

/-- Puts lines in order. -/
def sort : Program := fun j => do
  match takeOldKeys (j.args.length + 1) j.args with
  | .error message => j.fail 2 message
  | .ok (old, args) =>
    Job.withOptions { j with args } 2 sortRules fun given operands => do
      let listed? : Option Bytes := valueOf? given '\x06'
      let files : Except String (List Bytes) ← match listed? with
        | none => pure (.ok operands)
        | some list =>
          match ← Running.readFile j.cwd list with
          | .ok bytes => pure (.ok ((linesEndedBy '\x00' bytes).map (·.body)))
          | .error e => pure (.error s!"open failed: {nameShown list}: {e.words}")
      match files with
      | .error message => j.fail 2 message
      | .ok files =>
        match readRequest given old files with
        | .error fault =>
          let status ← if fault.hint then j.misused fault.status fault.message
            else j.fail fault.status fault.message
          match fault.more with
          | some message => j.fail fault.status message
          | none => return status
        | .ok r => runSort j given r

end FormatChain.Tools
