import FormatChain.Process.Numeral
import FormatChain.Process.Options

/-!
# How long texts are

Lines are as long as their tabs make them, and are expanded, folded and counted by that.

* `TabStops`, `TabStops.next?` : where tab stops are.
* `TabReading` : lists of tab stops.
* `TabStops.expandLine`, `TabStops.unexpandLine` : spaces for tabs, and tabs for spaces.
* `expand`, `unexpand` : the commands.
* `wc` : counting lines, words and bytes.
* `fold` : breaking lines.
-/

/-!
## Tabs and spaces

A tab goes on to the next tab stop.  Tab stops stand at equal distances, or where a list says.
-/

namespace FormatChain.Tools

open FormatChain.Process

/-- Where tab stops are. -/
structure TabStops where
  /-- The columns of the tab stops that are listed. -/
  listed : List Nat := []
  /-- The distance at which others follow them, if others do. -/
  every : Option Nat := none
  /-- The distance from the last one at which others follow, if others do. -/
  onward : Option Nat := none

/-- The next tab stop after a column; none after the last one. -/
def TabStops.next? (t : TabStops) (column : Nat) : Option Nat :=
  let multiple (size : Nat) : Option Nat := some (column + (size - column % size))
  match t.listed, t.every, t.onward with
  | [], some size, _ => multiple size
  | [], none, some size => multiple size
  | [], none, none => multiple 8
  | [size], none, none => multiple size
  | listed, every, onward =>
    match listed.find? (column < ·), every, onward with
    | some stop, _, _ => some stop
    | none, some size, _ => multiple size
    | none, none, some size =>
      let last := (listed.getLast?).getD 0
      some (column + (size - (column - last) % size))
    | none, none, none => none

/-! ### Lists -/

/-- What a number of a list says. -/
inductive TabNumber where
  /-- Where a tab stop is. -/
  | column
  /-- At which distance tab stops follow. -/
  | every
  /-- At which distance from the last one they follow. -/
  | onward
  deriving Repr, DecidableEq

/-- What was read of a list. -/
structure TabReading where
  /-- The tab stops. -/
  stops : TabStops := {}
  /-- The digits that are being read. -/
  digits : Bytes := []
  /-- What the number says. -/
  meant : TabNumber := .column
  /-- What is complained about, the latest first. -/
  complaints : List String := []

namespace TabReading

/-- Complains. -/
def complain (r : TabReading) (text : String) : TabReading :=
  { r with complaints := text :: r.complaints }

/-- Takes up the number that was read, if there is one; the last part says whether reading goes on. -/
def close (r : TabReading) : TabReading × Bool :=
  if r.digits.isEmpty then (r, true)
  else
    let n := (natOf? r.digits).getD 0
    let t := r.stops
    let r := { r with digits := [] }
    let twice (mark : String) := s!"'{mark}' specifier only allowed with the last value"
    if greatestUnsigned < n then (r, true)
    else
      match r.meant with
      | .column => ({ r with stops := { t with listed := t.listed ++ [n] } }, true)
      | .every =>
        if t.every.any (0 < ·) then (r.complain (twice "/"), false)
        else ({ r with stops := { t with every := some n } }, true)
      | .onward =>
        if t.onward.any (0 < ·) then (r.complain (twice "+"), false)
        else ({ r with stops := { t with onward := some n } }, true)

/-- Complains if the number that was read is too great. -/
def measured (r : TabReading) : TabReading :=
  if greatestUnsigned < (natOf? r.digits).getD 0 then
    r.complain s!"tab stop is too large {quoted r.digits}"
  else r

/-- Reads a list. -/
def read (r : TabReading) : Bytes → TabReading
  | [] => if r.complaints.isEmpty then (r.close).1 else r
  | c :: rest =>
    if c = ',' || isBlankByte c then
      match r.close with
      | (r, true) => read r rest
      | (r, false) => r
    else if c = '/' || c = '+' then
      let mark := String.singleton c
      let r := if r.digits.isEmpty then r
        else r.complain s!"'{mark}' specifier not at start of number: {quoted (c :: rest)}"
      read { r with meant := if c = '/' then .every else .onward } rest
    else if c.isDigit then
      let r := { r with digits := r.digits ++ [c] }
      read (if rest.head?.any Char.isDigit then r else r.measured) rest
    else r.complain s!"tab size contains invalid character(s): {quoted (c :: rest)}"

end TabReading

/-- What is wrong with tab stops. -/
def TabStops.fault? (t : TabStops) : Option String :=
  let rec ordered (before : Nat) : List Nat → Option String
    | [] => none
    | n :: rest =>
      if n = 0 then some "tab size cannot be 0"
      else if n ≤ before then some "tab sizes must be ascending"
      else ordered n rest
  match ordered 0 t.listed with
  | some fault => some fault
  | none =>
    if t.every.any (0 < ·) && t.onward.any (0 < ·) then
      some "'/' specifier is mutually exclusive with '+'"
    else none

/-- Tab stops without distances of zero. -/
def TabStops.sound (t : TabStops) : TabStops :=
  { t with every := t.every.filter (0 < ·), onward := t.onward.filter (0 < ·) }

/-! ### Lines -/

/-- The bytes of a line with spaces for tabs, after those done, from a column on; `converting` as long as
tabs are replaced. -/
def TabStops.expandLine (t : TabStops) (all converting : Bool) (column : Nat) (done : Bytes) :
    Bytes → Bytes
  | [] => done.reverse
  | c :: rest =>
    if !converting then t.expandLine all false column (c :: done) rest
    else
      let converting := all || isBlankByte c
      if c = '\t' then
        let next := (t.next? column).getD (column + 1)
        t.expandLine all converting next (List.replicate (next - column) ' ' ++ done) rest
      else
        t.expandLine all converting (if c = '\x08' then column - 1 else column + 1) (c :: done) rest

/-- How far the blanks of a line are replaced. -/
structure Unexpanding where
  /-- Whether blanks are replaced. -/
  converting : Bool := true
  /-- The column. -/
  column : Nat := 0
  /-- Whether the first of the blanks that wait stands just before a tab stop. -/
  single : Bool := false
  /-- Whether the byte before was a blank. -/
  afterBlank : Bool := true
  /-- The blanks that wait, the latest first. -/
  pending : Bytes := []
  /-- What is done, the latest first. -/
  done : Bytes := []

/-- The blanks that wait, as they are written. -/
def Unexpanding.flushed (u : Unexpanding) : Bytes :=
  if 1 < u.pending.length && u.single then u.pending.dropLast ++ ['\t'] else u.pending

/-- Goes on with a byte. -/
def Unexpanding.add (t : TabStops) (all : Bool) (u : Unexpanding) (c : Char) : Unexpanding :=
  if !u.converting then { u with done := c :: u.done }
  else
    let blank := isBlankByte c
    let written (u : Unexpanding) (c : Char) : Unexpanding :=
      { u with
        done := c :: (u.flushed ++ u.done), pending := [], single := false, afterBlank := blank
        converting := u.converting && (all || blank) }
    if blank then
      match t.next? u.column with
      | none => written { u with converting := false } c
      | some next =>
        let replaced (u : Unexpanding) : Unexpanding :=
          { u with pending := if u.single then (u.pending.getLast?).toList else [] }
        if c = '\t' then
          let pending := if u.pending.isEmpty then [] else u.pending.dropLast ++ ['\t']
          written (replaced { u with column := next, pending }) '\t'
        else
          let column := u.column + 1
          if u.afterBlank && column = next then
            let pending := if u.pending.isEmpty then [] else u.pending.dropLast ++ ['\t']
            written (replaced { u with column, pending }) '\t'
          else
            { u with column, pending := c :: u.pending, afterBlank := true, single := u.single || column = next }
    else written { u with column := if c = '\x08' then u.column - 1 else u.column + 1 } c

/-- The bytes of a line with tabs for spaces. -/
def TabStops.unexpandLine (t : TabStops) (all : Bool) (body : Bytes) : Bytes :=
  let u := body.foldl (Unexpanding.add t all) {}
  (u.flushed ++ u.done).reverse

/-! ### The commands -/

/-- Arguments in which a number after a dash is written as the value of an option. -/
def numberAsOption (letter : Char) : List Bytes → List Bytes
  | ['-', '-'] :: rest => ['-', '-'] :: rest
  | ('-' :: c :: more) :: rest =>
    if c.isDigit then ['-', letter] :: (c :: more) :: numberAsOption letter rest
    else ('-' :: c :: more) :: numberAsOption letter rest
  | arg :: rest => arg :: numberAsOption letter rest
  | [] => []

/-- Changes lines with tab stops that options list. -/
def withTabStops (j : Job) (given : List Given) (operands : Except String (List Bytes))
    (change : TabStops → Bytes → Bytes) : Running ExitStatus := do
  let lists := given.filter fun g => g.letter == 't' || g.letter == '\x01'
  let r := lists.foldl (fun r g =>
    if r.complaints.isEmpty then { r with digits := [], meant := .column }.read g.value else r) ({} : TabReading)
  match r.complaints.reverse, operands with
  | [], .error fault => j.misused 1 fault
  | [], .ok files =>
    match r.stops.fault? with
    | some fault => j.fail 1 fault
    | none =>
      let t := r.stops.sound
      j.change files fun bytes => (linesOf bytes).flatMap fun line =>
        change t line.body ++ (if line.ended then ['\n'] else [])
  | complaints, _ =>
    complaints.forM j.complain
    return .code 1

/-- Writes spaces for tabs. -/
def expand : Program := fun j => do
  let rules : OptionRules := { letters := "it:", words := [("initial", 'i'), ("tabs", 't')] }
  let (given, operands) := rules.readSoFar (numberAsOption 't' j.args)
  withTabStops j given operands fun t body => t.expandLine (!has given 'i') true 0 [] body

/-- Writes tabs for spaces. -/
def unexpand : Program := fun j => do
  let rules : OptionRules := {
    letters := "at:f\x01:", words := [("tabs", 't'), ("all", 'a'), ("first-only", 'f')] }
  let (given, operands) := rules.readSoFar (numberAsOption '\x01' j.args)
  let all := (has given 'a' || has given 't') && !has given 'f'
  withTabStops j given operands fun t body => t.unexpandLine all body

end FormatChain.Tools

/-!
## How long texts are

The lines, the words and the bytes of texts are counted, and lines that are too wide are broken.
-/

namespace FormatChain.Tools

open FormatChain.Process

/-! ### Counting -/

/-- How many lines, words and bytes there are, and how wide the widest line is. -/
structure Counts where
  /-- The line ends. -/
  lines : Nat := 0
  /-- The words. -/
  words : Nat := 0
  /-- The bytes. -/
  bytes : Nat := 0
  /-- The width of the widest line. -/
  width : Nat := 0
  deriving Inhabited

/-- The counts with those of more bytes, given whether a word was begun and how wide the line is. -/
def Counts.after (c : Counts) (begun : Bool) (column : Nat) : Bytes → Counts
  | [] => { c with width := max c.width column }
  | byte :: rest =>
    let space := isSpaceByte byte
    let c := { c with
      lines := if byte = '\n' then c.lines + 1 else c.lines
      words := if space || begun || !isPrintByte byte then c.words else c.words + 1
      bytes := c.bytes + 1 }
    let begun := !space && (begun || isPrintByte byte)
    if byte = '\n' || byte = '\r' || byte = '\x0c' then
      Counts.after { c with width := max c.width column } begun 0 rest
    else
      let column := if byte = '\t' then column + 8 - column % 8
        else if isPrintByte byte then column + 1 else column
      Counts.after c begun column rest

/-- The sums of counts. -/
def Counts.add (a b : Counts) : Counts :=
  ⟨a.lines + b.lines, a.words + b.words, a.bytes + b.bytes, max a.width b.width⟩

/-- Counts lines, words and bytes. A single count stands alone. -/
def wc : Program := fun j =>
  let rules : OptionRules := {
    letters := "clmwL"
    words := [("bytes", 'c'), ("chars", 'm'), ("lines", 'l'), ("words", 'w'), ("max-line-length", 'L')] }
  j.withOptions 1 rules fun given files => do
    let wanted (letter : Char) : Bool :=
      if given.isEmpty then ['l', 'w', 'c'].contains letter else has given letter
    let letters := ['l', 'w', 'm', 'c', 'L'].filter wanted
    let mut well := true
    let mut found : List (Option Bytes × Counts) := []
    let mut usesInput := files.isEmpty
    for file in if files.isEmpty then [['-']] else files do
      if file = ['-'] then
        usesInput := true
        let counts := Counts.after {} false 0 (← Running.takeInput)
        found := (if files.isEmpty then none else some file, counts) :: found
      else
        match ← Running.readFile j.cwd file with
        | .ok bytes => found := (some file, Counts.after {} false 0 bytes) :: found
        | .error .isADirectory =>
          j.complain s!"{nameShown file}: Is a directory"
          found := (some file, {}) :: found
          usesInput := true
          well := false
        | .error e =>
          j.complain s!"{nameShown file}: {e.words}"
          well := false
    let total := found.foldl (fun sum entry => sum.add entry.2) {}
    let width :=
      if letters.length = 1 && files.length ≤ 1 then 1
      else if usesInput then 7
      else (digitsOf total.bytes).length
    let row (name : Option Bytes) (c : Counts) : Bytes :=
      let numbers := letters.map fun letter => padStart width (digitsOf (match letter with
        | 'l' => c.lines
        | 'w' => c.words
        | 'L' => c.width
        | _ => c.bytes))
      joinWith [' '] (numbers ++ name.toList) ++ ['\n']
    for (name, counts) in found.reverse do
      Running.write (row name counts)
    if files.length > 1 then Running.write (row (some "total".toList) total)
    return statusOf well

/-! ### Widths -/

/-- The column after a byte. -/
def columnAfter (bytesOnly : Bool) (column : Nat) (c : Char) : Nat :=
  if bytesOnly then column + 1
  else if c = '\x08' then column - 1
  else if c = '\r' then 0
  else if c = '\t' then column + 8 - column % 8
  else column + 1

/-- A line broken where it gets too wide, in at most so many steps; `current` is the part begun, last
byte first. -/
def foldLine (bytesOnly atSpaces : Bool) (width : Nat) :
    Nat → Nat → Bytes → List Bytes → Bytes → List Bytes
  | 0, _, current, done, _ => (current.reverse :: done).reverse
  | _, _, current, done, [] => (current.reverse :: done).reverse
  | steps + 1, column, current, done, c :: rest =>
    let next := columnAfter bytesOnly column c
    if next ≤ width then foldLine bytesOnly atSpaces width steps next (c :: current) done rest
    else
      let tail := current.takeWhile fun b => !isBlankByte b
      if atSpaces && tail.length < current.length then
        let kept := current.drop tail.length
        foldLine bytesOnly atSpaces width steps 0 [] (kept.reverse :: done) (tail.reverse ++ c :: rest)
      else if current.isEmpty then
        foldLine bytesOnly atSpaces width steps next [c] done rest
      else foldLine bytesOnly atSpaces width steps 0 [] (current.reverse :: done) (c :: rest)

/-- Breaks lines that are too wide. -/
def fold : Program := fun j => do
  let rules : OptionRules := {
    letters := "bsw:", words := [("bytes", 'b'), ("spaces", 's'), ("width", 'w')] }
  let widths : AmountRules := { refusal := "invalid number of columns", low := 1, high := 2 ^ 64 - 10 }
  let (given, operands) := rules.readSoFar (numberAsOption 'w' j.args)
  match (given.filter fun g => g.letter == 'w').mapM (fun g => widths.readNat g.value), operands with
  | .error fault, _ => j.fail 1 fault
  | .ok _, .error fault => j.misused 1 fault
  | .ok found, .ok files =>
    let width := (found.getLast?).getD 80
    j.change files fun bytes => (linesOf bytes).flatMap fun line =>
      let steps := (line.body.length + 1) * (min width line.body.length + 2)
      joinWith ['\n'] (foldLine (has given 'b') (has given 's') width steps 0 [] [] line.body)
        ++ (if line.ended then ['\n'] else [])

end FormatChain.Tools
