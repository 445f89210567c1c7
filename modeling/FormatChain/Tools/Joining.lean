import FormatChain.Process.Options

/-!
# Lines of two files

The lines of two files are compared, or joined by a field that they have in common.

* `OrderCheck` : whether the order of the lines is checked.
* `Sides`, `goThrough` : what is found out when two files are gone through.
* `comm` : the command that tells lines apart.
* `Joining`, `Joining.text` : how lines are put together, and a pair of lines as it is shown.
* `JoinRun`, `pairUp` : going through the files; their order is checked from the first line without a
  partner on.
* `join` : the command.
-/

/-!
## Lines in one file or both

Two files whose lines are in order are gone through together, and lines that stand in one of them or in
both are told apart.
-/

namespace FormatChain.Tools

open FormatChain.Process

/-- Whether the order of lines is checked. -/
inductive OrderCheck where
  /-- Always, and all ends where it is wrong. -/
  | always
  /-- From the first line on that stands in one file only. -/
  | usual
  /-- Never. -/
  | never
  deriving DecidableEq

/-- What is found out when two files are gone through. -/
structure Sides where
  /-- The lines that are shown, the last one first. -/
  shown : List Bytes := []
  /-- How many lines stand in the first file only. -/
  left : Nat := 0
  /-- How many lines stand in the second file only. -/
  right : Nat := 0
  /-- How many lines stand in both. -/
  both : Nat := 0
  /-- Whether a line stood in one file only. -/
  unpaired : Bool := false
  /-- The numbers of the files that are not in order, the last one found first. -/
  disordered : List Nat := []
  /-- Whether all ended early. -/
  stopped : Bool := false

/-- Two files that are gone through: of each, the lines read before, the last one first, and those that are
left. -/
structure SideLines where
  /-- The lines read before. -/
  before : List Bytes := []
  /-- The lines that are left. -/
  rest : List Bytes

/-- The lines with the first one taken. -/
def SideLines.step (s : SideLines) : SideLines :=
  match s.rest with
  | line :: rest => ⟨line :: s.before, rest⟩
  | [] => s

/-- Checks that a line does not come before the one that stood before it. -/
def Sides.check (s : Sides) (check : OrderCheck) (file : Nat) (a b : Bytes) : Sides :=
  if check = .never || (check = .usual && !s.unpaired) || s.disordered.contains file then s
  else if bytesBefore a b then s
  else { s with disordered := file :: s.disordered, stopped := check = .always }

/-- Checks the order of a file after a line of it was taken. -/
def Sides.checkStep (s : Sides) (check : OrderCheck) (file : Nat) (lines : SideLines) : Sides :=
  match lines.before, lines.rest with
  | a :: _, b :: _ => s.check check file a b
  | b :: a :: _, [] => s.check check file a b
  | _, _ => s

/-- Goes through two files, in at most so many steps; `column` shows a line in its column. -/
def goThrough (check : OrderCheck) (column : Nat → Bytes → List Bytes) :
    Nat → Sides → SideLines → SideLines → Sides
  | 0, s, _, _ => s
  | steps + 1, s, a, b =>
    let onward (s : Sides) (takeA takeB : Bool) : Sides :=
      let a' := if takeA then a.step else a
      let b' := if takeB then b.step else b
      let s := if takeA then s.checkStep check 1 a' else s
      let s := if takeB && !s.stopped then s.checkStep check 2 b' else s
      if s.stopped then s else goThrough check column steps s a' b'
    let onlyFirst (line : Bytes) : Sides :=
      onward { s with shown := column 1 line ++ s.shown, left := s.left + 1, unpaired := true } true false
    let onlySecond (line : Bytes) : Sides :=
      onward { s with shown := column 2 line ++ s.shown, right := s.right + 1, unpaired := true } false true
    match a.rest, b.rest with
    | [], [] => s
    | x :: _, [] => onlyFirst x
    | [], y :: _ => onlySecond y
    | x :: _, y :: _ =>
      if x = y then onward { s with shown := column 3 y ++ s.shown, both := s.both + 1 } true true
      else if bytesBefore x y then onlyFirst x
      else onlySecond y

/-- The check that options ask for. -/
def orderCheck (given : List Given) (always never : Char) : OrderCheck :=
  match given.reverse.find? fun g => g.letter = always || g.letter = never with
  | some g => if g.letter = always then .always else .never
  | none => .usual

/-- Two files of lines, or the number of a complaint. -/
def twoFiles (j : Job) (mark : Char) (first second : Bytes) :
    Running (Option (List Bytes × List Bytes)) := do
  match ← j.readOperand first with
  | none => return none
  | some a =>
    match ← j.readOperand second with
    | none => return none
    | some b =>
      let bodies (bytes : Bytes) := (linesEndedBy mark bytes).map (·.body)
      return some (bodies a, bodies b)

/-- Goes on with two files, or complains of how many are given. -/
def withTwoOperands (j : Job) (operands : List Bytes) (go : Bytes → Bytes → Running ExitStatus) :
    Running ExitStatus :=
  match operands with
  | [] => j.misused 1 "missing operand"
  | [one] => j.misused 1 s!"missing operand after {quoted one}"
  | [first, second] => go first second
  | _ :: _ :: extra :: _ => j.misused 1 s!"extra operand {quoted extra}"

/-- Tells lines apart that stand in one file or in both. -/
def comm : Program := fun j =>
  let rules : OptionRules := {
    letters := "123z\x01\x02\x03:\x04"
    words := [("zero-terminated", 'z'), ("check-order", '\x01'), ("nocheck-order", '\x02'),
      ("output-delimiter", '\x03'), ("total", '\x04')] }
  j.withOptions 1 rules fun given operands => do
    let separators := ((given.filter (·.letter = '\x03')).map (·.value)).eraseDups
    if separators.length > 1 then j.fail 1 "multiple output delimiters specified"
    else
      withTwoOperands j operands fun first second => do
        let mark := if has given 'z' then '\x00' else '\n'
        if first = ['-'] && second = ['-'] then j.fail 1 "-: Bad file descriptor"
        else match ← twoFiles j mark first second with
        | none => return .code 1
        | some (a, b) =>
          let separator := match separators.head? with
            | some [] => ['\x00']
            | some text => text
            | none => ['\t']
          let hidden (n : Nat) := has given (Char.ofNat (48 + n))
          let column (n : Nat) (line : Bytes) : List Bytes :=
            if hidden n then []
            else
              let before := ((List.range n).filter fun m => 0 < m && !hidden m).length
              [(List.replicate before separator).flatten ++ line ++ [mark]]
          let found := goThrough (orderCheck given '\x01' '\x02') column (a.length + b.length + 1) {}
            { rest := a } { rest := b }
          Running.write found.shown.reverse.flatten
          for n in found.disordered.reverse do j.complain s!"file {n} is not in sorted order"
          if found.stopped then return .code 1
          else
            if has given '\x04' then
              Running.write (joinWith separator
                [digitsOf found.left, digitsOf found.right, digitsOf found.both, "total".toList] ++ [mark])
            if found.disordered.isEmpty then return success
            else j.fail 1 "input is not in sorted order"

end FormatChain.Tools

/-!
## Lines with the same field

Two files whose lines are in order of a field are gone through together, and lines with the same field are
put together.
-/

namespace FormatChain.Tools

open FormatChain.Process

/-- A field that is shown of a pair of lines. -/
inductive JoinField where
  /-- The field that both lines have. -/
  | shared
  /-- A field of a file; fields are counted from zero. -/
  | field (second : Bool) (n : Nat)
  deriving DecidableEq

/-- How lines are put together. -/
structure Joining where
  /-- What stands between fields; white space if none is given. -/
  separator : Option Char := none
  /-- The field of the first file that counts, from zero, if it is given. -/
  left : Option Nat := none
  /-- The field of the second file that counts, from zero, if it is given. -/
  right : Option Nat := none
  /-- The fields that are shown, if not all. -/
  shown : List JoinField := []
  /-- Whether lines have as many fields as the first one of their file. -/
  likeFirst : Bool := false
  /-- What stands for an empty field. -/
  filler : Option Bytes := none
  /-- Whether lines of the first file without a partner are shown. -/
  leftAlone : Bool := false
  /-- Whether lines of the second file without a partner are shown. -/
  rightAlone : Bool := false
  /-- Whether pairs are shown. -/
  pairs : Bool := true
  /-- Whether capital and small letters are the same. -/
  fold : Bool := false
  /-- What ends a line. -/
  mark : Char := '\n'
  /-- Whether the first lines are headings. -/
  headed : Bool := false
  /-- Whether the order is checked. -/
  check : OrderCheck := .usual

/-- A line with its fields. -/
structure JoinLine where
  /-- The line. -/
  body : Bytes
  /-- The fields. -/
  fields : List Bytes
  deriving Inhabited

namespace Joining

/-- The number of the field that counts. -/
def place (o : Joining) (second : Bool) : Nat := ((if second then o.right else o.left).getD 0)

/-- A line with its fields. -/
def split (o : Joining) (body : Bytes) : JoinLine :=
  ⟨body, match o.separator with
    | some mark => if body.isEmpty then [] else splitAtByte mark body
    | none => (splitAtByte ' ' (body.map fun c => if c = '\t' then ' ' else c)).filter fun f => !f.isEmpty⟩

/-- The field of a line that counts. -/
def key (o : Joining) (second : Bool) (line : JoinLine) : Bytes :=
  let field := (line.fields[o.place second]?).getD []
  if o.fold then field.map Char.toUpper else field

/-- The order of lines, each of a file, by the fields that count. -/
def compareLines (o : Joining) (aSecond bSecond : Bool) (a b : JoinLine) : Ordering :=
  let x := o.key aSecond a
  let y := o.key bSecond b
  if x = y then .eq else if bytesBefore x y then .lt else .gt

/-- A field of a line as it is shown. -/
def fieldText (o : Joining) (line : Option JoinLine) (n : Nat) : Bytes :=
  let text := ((line.bind fun line => line.fields[n]?).getD [])
  if text.isEmpty then o.filler.getD [] else text

/-- The fields of a line but for the one that counts. -/
def otherFields (o : Joining) (second : Bool) (counts : Nat × Nat) (line : Option JoinLine) : List Bytes :=
  let count := if o.likeFirst then (if second then counts.2 else counts.1)
    else (line.map fun line => line.fields.length).getD 0
  ((List.range count).filter (· ≠ o.place second)).map (o.fieldText line)

/-- A pair of lines, or a line without a partner, as it is shown; `counts` are the numbers of fields of the
first lines. -/
def text (o : Joining) (counts : Nat × Nat) (a b : Option JoinLine) : Bytes :=
  let shared := if a.isSome then o.fieldText a (o.place false) else o.fieldText b (o.place true)
  let fields :=
    if o.shown.isEmpty then
      shared :: (o.otherFields false counts a ++ o.otherFields true counts b)
    else
      o.shown.map fun field => match field with
        | .shared => shared
        | .field false n => o.fieldText a n
        | .field true n => o.fieldText b n
  joinWith [o.separator.getD ' '] fields

end Joining

/-! ### Going through the files -/

/-- A file that is gone through. -/
structure JoinSide where
  /-- The name. -/
  name : Bytes
  /-- The line that was read last, if there is one with which the next one is compared. -/
  last : Option JoinLine := none
  /-- The lines that are left. -/
  rest : List JoinLine
  /-- How many lines were read. -/
  number : Nat := 0
  /-- Whether it was found not to be in order. -/
  warned : Bool := false

/-- What is known while two files are gone through. -/
structure JoinRun where
  /-- The first file. -/
  first : JoinSide
  /-- The second file. -/
  second : JoinSide
  /-- What was written, the last line first. -/
  written : List Bytes := []
  /-- What was complained of, the last one first. -/
  complaints : List String := []
  /-- Whether a line had no partner. -/
  unpaired : Bool := false
  /-- The numbers of fields of the first lines. -/
  counts : Nat × Nat := (0, 0)

/-- Going through two files, which may end because of their order. -/
abbrev Pairing := ExceptT Unit (StateM JoinRun)

/-- A file. -/
def JoinRun.side (r : JoinRun) (second : Bool) : JoinSide := if second then r.second else r.first

/-- Changes a file. -/
def changeSide (second : Bool) (f : JoinSide → JoinSide) : Pairing Unit :=
  modify fun r => if second then { r with second := f r.second } else { r with first := f r.first }

/-- Writes a pair of lines. -/
def writePair (o : Joining) (a b : Option JoinLine) : Pairing Unit :=
  modify fun r => { r with written := o.text r.counts a b :: r.written }

/-- Checks a line that was read after another one. -/
def checkOrder (o : Joining) (second : Bool) (before line : JoinLine) : Pairing Unit := do
  let r ← get
  let side := r.side second
  let looks := o.check = .always || (o.check = .usual && r.unpaired)
  if looks && !side.warned && o.compareLines second second before line == .gt then
    let message := s!"{textOf side.name}:{side.number}: is not sorted: {textOf line.body}"
    modify fun r => { r with complaints := message :: r.complaints }
    if o.check = .always then throw ()
    changeSide second fun side => { side with warned := true }

/-- The next line of a file, if there is one. -/
def nextLine (o : Joining) (second : Bool) : Pairing (Option JoinLine) := do
  let side := (← get).side second
  match side.rest with
  | [] => return none
  | line :: rest =>
    changeSide second fun side => { side with rest, number := side.number + 1 }
    match side.last with
    | some before => checkOrder o second before line
    | none => pure ()
    changeSide second fun side => { side with last := some line }
    return some line

/-- The lines of a file from one on that have the same field as another line, and the line after them, in
at most so many steps. -/
def takeSame (o : Joining) (second : Bool) (other : JoinLine) :
    Nat → List JoinLine → Pairing (List JoinLine × Option JoinLine)
  | 0, done => return (done.reverse, none)
  | steps + 1, done => do
    match ← nextLine o second with
    | none => return (done.reverse, none)
    | some line =>
      if o.compareLines second (!second) line other == .eq then takeSame o second other steps (line :: done)
      else return (done.reverse, some line)

/-- Goes through the rest of a file, whose lines have no partner, in at most so many steps. -/
def finishSide (o : Joining) (second : Bool) : Nat → Option JoinLine → Pairing Unit
  | 0, _ => return ()
  | _, none => return ()
  | steps + 1, some line => do
    let shows := if second then o.rightAlone else o.leftAlone
    if shows then
      if second then writePair o none (some line) else writePair o (some line) none
    let r ← get
    if (r.side second).warned && !shows then return ()
    else if !shows && o.check = .never then return ()
    else finishSide o second steps (← nextLine o second)

/-- Goes through two files from these lines on, in at most so many steps. -/
def pairUp (o : Joining) : Nat → Option JoinLine → Option JoinLine → Pairing Unit
  | 0, _, _ => return ()
  | steps + 1, some a, some b => do
    match o.compareLines false true a b with
    | .lt =>
      if o.leftAlone then writePair o (some a) none
      let next ← nextLine o false
      modify fun r => { r with unpaired := true }
      pairUp o steps next (some b)
    | .gt =>
      if o.rightAlone then writePair o none (some b)
      let next ← nextLine o true
      modify fun r => { r with unpaired := true }
      pairUp o steps (some a) next
    | .eq =>
      let (moreA, nextA) ← takeSame o false b steps []
      let (moreB, nextB) ← takeSame o true a steps []
      if o.pairs then
        (a :: moreA).forM fun a => (b :: moreB).forM fun b => writePair o (some a) (some b)
      pairUp o steps nextA nextB
  | steps + 1, a, b => do
    finishSide o false steps a
    finishSide o true steps b

/-- Goes through two files of so many lines from the start. -/
def pairAll (o : Joining) (count : Nat) : Pairing Unit := do
  let a ← nextLine o false
  let b ← nextLine o true
  let fieldCount (line : Option JoinLine) : Nat := (line.map fun line => line.fields.length).getD 0
  modify fun r => { r with counts := (fieldCount a, fieldCount b) }
  if o.headed && (a.isSome || b.isSome) then
    writePair o a b
    changeSide false fun side => { side with last := none }
    changeSide true fun side => { side with last := none }
    let a ← if a.isSome then nextLine o false else pure none
    let b ← if b.isSome then nextLine o true else pure none
    pairUp o (count + 1) a b
  else pairUp o (count + 1) a b

/-! ### Options -/

/-- The number of a field, counted from zero, or what is wrong with it. -/
def joinFieldNumber (bytes : Bytes) : Except String Nat :=
  match natOf? bytes with
  | some (n + 1) => .ok n
  | _ => .error s!"invalid field number: {quoted bytes}"

/-- The number of a file, or what is wrong with it. -/
def joinFileNumber (bytes : Bytes) : Except String Bool :=
  match natOf? bytes with
  | some 1 => .ok false
  | some 2 => .ok true
  | _ => .error s!"invalid file number: {quoted bytes}"

/-- The fields that a list names, or what is wrong with it. -/
def joinFields (bytes : Bytes) : Except String (List JoinField) :=
  let items := (splitAtByte ' ' (bytes.map fun c => if c = ',' || c = '\t' then ' ' else c))
  items.mapM fun item =>
    match item with
    | ['0'] => .ok .shared
    | '1' :: '.' :: n => return .field false (← joinFieldNumber n)
    | '2' :: '.' :: n => return .field true (← joinFieldNumber n)
    | c :: _ =>
      if c = '0' || c = '1' || c = '2' then .error s!"invalid field specifier: {quoted item}"
      else .error s!"invalid file number in field spec: {quoted item}"
    | [] => .error s!"invalid file number in field spec: {quoted item}"

/-- A field that counts, unless another one was given before. -/
def settledField (before : Option Nat) (n : Nat) : Except String (Option Nat) :=
  match before with
  | some m => if m = n then .ok before else .error s!"incompatible join fields {m + 1}, {n + 1}"
  | none => .ok (some n)

/-- What is asked for with an option more. -/
def Joining.adding (o : Joining) (g : Given) : Except String Joining :=
  match g.letter with
  | 'a' => do return if ← joinFileNumber g.value then { o with rightAlone := true } else { o with leftAlone := true }
  | 'v' => do return if ← joinFileNumber g.value then { o with rightAlone := true, pairs := false }
      else { o with leftAlone := true, pairs := false }
  | 'e' =>
    if o.filler.isSome && o.filler != some g.value then .error "conflicting empty-field replacement strings"
    else .ok { o with filler := some g.value }
  | 'i' => .ok { o with fold := true }
  | '1' => do return { o with left := ← settledField o.left (← joinFieldNumber g.value) }
  | '2' => do return { o with right := ← settledField o.right (← joinFieldNumber g.value) }
  | 'j' => do
    let n ← joinFieldNumber g.value
    return { o with left := ← settledField o.left n, right := ← settledField o.right n }
  | 't' => do
    let mark ← match g.value with
      | [] => pure '\n'
      | [c] => pure c
      | ['\\', '0'] => pure '\x00'
      | value => throw s!"multi-character tab {quoted value}"
    if o.separator.isSome && o.separator != some mark then throw "incompatible tabs"
    return { o with separator := some mark }
  | 'o' =>
    if g.value = "auto".toList then .ok { o with likeFirst := true }
    else do return { o with shown := o.shown ++ (← joinFields g.value) }
  | 'z' => .ok { o with mark := '\x00' }
  | '\x01' => .ok { o with check := .always }
  | '\x02' => .ok { o with check := .never }
  | '\x03' => .ok { o with headed := true }
  | _ => .ok o

/-- The options of the command. -/
def joinRules : OptionRules :=
  { letters := "a:e:i1:2:j:o:t:v:z\x01\x02\x03"
    words := [("ignore-case", 'i'), ("check-order", '\x01'), ("nocheck-order", '\x02'), ("header", '\x03'),
      ("zero-terminated", 'z')] }

/-- What is asked for by options and by lists of fields among the operands, with the other operands. -/
def Joining.read (given : List Given) (operands : List Bytes) : Except String (Joining × List Bytes) := do
  let o ← given.foldlM Joining.adding {}
  let lists := if given.any (·.letter = 'o') then operands.take (operands.length - 2) else []
  let fields ← lists.mapM joinFields
  return ({ o with shown := o.shown ++ fields.flatten }, operands.drop lists.length)

/-- Puts lines together that have the same field. -/
def join : Program := fun j =>
  j.withOptions 1 joinRules fun given operands => do
    match Joining.read given operands with
    | .error message => j.fail 1 message
    | .ok (o, operands) =>
      withTwoOperands j operands fun first second => do
        if first = ['-'] && second = ['-'] then j.fail 1 "both files cannot be standard input"
        else
          match ← twoFiles j o.mark first second with
          | none => return .code 1
          | some (a, b) =>
            let start : JoinRun := {
              first := { name := first, rest := a.map o.split }
              second := { name := second, rest := b.map o.split } }
            let (result, r) := (pairAll o (a.length + b.length)).run.run start
            Running.write (r.written.reverse.flatMap (· ++ [o.mark]))
            r.complaints.reverse.forM j.complain
            match result with
            | .error () => return .code 1
            | .ok () =>
              if r.complaints.isEmpty then return success
              else j.fail 1 "input is not in sorted order"

end FormatChain.Tools
