import FormatChain.Process.Numeral
import FormatChain.Process.Options
import FormatChain.Regex.Reading

/-!
# The ends of files

Files are shown from their beginning or their end, or record by record in reverse.

* `reverseRecords` : the records that a text ends with a separator, the last one first.
* `reverseMatched` : the same where a pattern says what a separator is.
* `tac` : the command.
* `Amount` : how much is wanted.
* `Amount.first`, `Amount.last` : the first and the last part.
* `head`, `tail` : the commands.
-/

/-!
## Records in reverse order

A text consists of records with separators between them.  A separator belongs to the record before it,
or to the one after it.
-/

namespace FormatChain.Tools

open FormatChain.Process

/-- The records of a text, the last one first. The bytes of the text and of the separator are given from
the end on, and those of the record that was begun from its start on; whether separators stand before
their records. In at most so many steps. -/
def reverseRecords (before : Bool) (separator : Bytes) : Nat → Bytes → Bytes → List Bytes
  | 0, current, _ => [current]
  | _, current, [] => [current]
  | steps + 1, current, c :: rest =>
    if separator.isPrefixOf (c :: rest) then
      let others := (c :: rest).drop separator.length
      if before then
        (separator.reverse ++ current) :: reverseRecords before separator steps [] others
      else current :: reverseRecords before separator steps separator.reverse others
    else reverseRecords before separator steps (c :: current) rest

/-- The last place before a limit at which a pattern fits, and where it ends. -/
def lastFit? (p : Pattern) (text : Bytes) : Nat → Option (Nat × Nat)
  | 0 => none
  | place + 1 =>
    match p.at? false text place (if place = 0 then none else text[place - 1]?) (text.drop place) with
    | some m => some (m.start, m.stop)
    | none => lastFit? p text place

/-- The records of a text, the last one first, where a pattern fits the separators; what stands before a
limit was not searched yet, and what stands before an end was not written. In at most so many steps. -/
def reverseMatched (before : Bool) (p : Pattern) (text : Bytes) : Nat → Nat → Nat → List Bytes
  | 0, _, stop => [text.take stop]
  | steps + 1, limit, stop =>
    match lastFit? p (text.take limit) limit with
    | none => [text.take stop]
    | some (start, finish) =>
      let cut := if before then start else finish
      ((text.take stop).drop cut) :: reverseMatched before p text steps start cut

/-- Writes records, the last one first. -/
def tac : Program := fun j =>
  let rules : OptionRules := {
    letters := "brs:", words := [("before", 'b'), ("regex", 'r'), ("separator", 's')] }
  j.withOptions 1 rules fun given files => do
    let separator := (valueOf? given 's').getD ['\n']
    let before := has given 'b'
    if has given 'r' then
      if separator.isEmpty then return ← j.fail 1 "separator cannot be empty"
      match Pattern.read { lineMark := some '\n' } separator with
      | .error fault => j.fail 1 fault.message
      | .ok p =>
        j.change files fun bytes =>
          (reverseMatched before p bytes (bytes.length + 1) bytes.length bytes.length).flatten
    else
      let separator := if separator.isEmpty then ['\x00'] else separator
      j.change files fun bytes =>
        (reverseRecords before separator.reverse (bytes.length + 1) [] bytes.reverse).flatten

end FormatChain.Tools

/-!
## The ends of files

The first or the last part of a text is written, counted in lines or in bytes.
-/

namespace FormatChain.Tools

open FormatChain.Process

/-- How much is wanted. -/
structure Amount where
  /-- Whether bytes are counted, and not lines. -/
  bytes : Bool := false
  /-- The number. -/
  count : Nat := 10
  /-- Whether it is counted from the other end. -/
  other : Bool := false
  /-- The byte that ends lines. -/
  mark : Char := '\n'

/-- What stands before a part. -/
inductive Titles where
  /-- The name of the file, if there are several. -/
  | usual
  /-- The name of the file. -/
  | always
  /-- Nothing. -/
  | never
  deriving Repr, DecidableEq

/-- The suffixes of amounts. -/
def amountLetters : String := "bkKmMGTPEZY0"

/-- The first part of bytes, or all but the last part. -/
def Amount.first (a : Amount) (bytes : Bytes) : Bytes :=
  if a.bytes then if a.other then bytes.take (bytes.length - a.count) else bytes.take a.count
  else
    let lines := linesEndedBy a.mark bytes
    let wanted := if a.other then lines.take (lines.length - a.count) else lines.take a.count
    wanted.flatMap fun line => if line.ended then line.body ++ [a.mark] else line.body

/-- The last part of bytes, or what begins with a line or a byte of a number. -/
def Amount.last (a : Amount) (bytes : Bytes) : Bytes :=
  if a.bytes then if a.other then bytes.drop (a.count - 1) else lastOf a.count bytes
  else
    let lines := linesEndedBy a.mark bytes
    let wanted := if a.other then lines.drop (a.count - 1) else lastOf a.count lines
    wanted.flatMap fun line => if line.ended then line.body ++ [a.mark] else line.body

/-- The number of an amount, or what is said of it. -/
def Amount.reading (a : Amount) (value : Bytes) : Except String Amount := do
  let what := if a.bytes then "bytes" else "lines"
  let count ← ({ refusal := s!"invalid number of {what}", letters := amountLetters } : AmountRules).readNat value
  return { a with count }

/-- How many bytes a command that stops early takes at once. -/
def blockSize : Nat := 8192

/-- The line that stands before the part of a file, if there are several. -/
def partTitle (first : Bool) (file : Bytes) : Bytes :=
  let name := if file = ['-'] then "standard input".toList else file
  (if first then [] else ['\n']) ++ "==> ".toList ++ name ++ " <==\n".toList

/-- Writes parts of what comes in or of files. -/
def writeParts (j : Job) (titles : Titles) (files : List Bytes) (pick : Bytes → Bytes)
    (pickInput : Running Bytes) : Running ExitStatus := do
  let titled := titles = .always || (titles = .usual && files.length > 1)
  let mut well := true
  let mut first := true
  for file in if files.isEmpty then [['-']] else files do
    let found : Except SystemError Bytes ← if file = ['-'] then do pure (.ok [])
      else Running.readFile j.cwd file
    match found with
    | .error .isADirectory =>
      if titled then Running.write (partTitle first file)
      j.complain s!"error reading {shellQuoted file}: Is a directory"
      first := false
      well := false
    | .error e =>
      j.complain s!"cannot open {shellQuoted file} for reading: {e.words}"
      well := false
    | .ok bytes =>
      if titled then Running.write (partTitle first file)
      Running.write (← if file = ['-'] then pickInput else pure (pick bytes))
      first := false
  return statusOf well

/-- The long options of the commands that write a part. -/
def partWords : List (String × Char) :=
  [("bytes", 'c'), ("lines", 'n'), ("quiet", 'q'), ("silent", 'q'), ("verbose", 'v'), ("zero-terminated", 'z')]

/-! ### The first part -/

/-- The amount and the titles that letters after an old number ask for, and the suffix of the number. -/
def oldHeadLetters (a : Amount) (titles : Titles) (suffix : Bytes) :
    Bytes → Except Char (Amount × Titles × Bytes)
  | [] => .ok (a, titles, suffix)
  | c :: rest =>
    if c = 'c' then oldHeadLetters { a with bytes := true } titles [] rest
    else if c = 'b' || c = 'k' || c = 'm' then oldHeadLetters { a with bytes := true } titles [c] rest
    else if c = 'l' then oldHeadLetters { a with bytes := false } titles suffix rest
    else if c = 'q' then oldHeadLetters a .never suffix rest
    else if c = 'v' then oldHeadLetters a .always suffix rest
    else if c = 'z' then oldHeadLetters { a with mark := '\x00' } titles suffix rest
    else .error c

/-- What is wrong with the arguments of a command that writes a part. -/
structure PartFault where
  /-- The wording. -/
  message : String
  /-- Whether the help is pointed to. -/
  hint : Bool := false

/-- The amount and the titles with an option of the command for the first part. -/
def headOption (state : Amount × Titles) (g : Given) : Except PartFault (Amount × Titles) := do
  let (a, titles) := state
  let counted (bytes : Bool) : Except PartFault (Amount × Titles) := do
    let (other, value) := match g.value with
      | '-' :: value => (true, value)
      | value => (false, value)
    match { a with bytes, other }.reading value with
    | .ok a => return (a, titles)
    | .error fault => throw ⟨fault, false⟩
  match g.letter with
  | 'c' => counted true
  | 'n' => counted false
  | 'q' => return (a, .never)
  | 'v' => return (a, .always)
  | 'z' => return ({ a with mark := '\x00' }, titles)
  | letter => throw ⟨s!"invalid trailing option -- {letter}", true⟩

/-- What is asked of the command for the first part, with its other arguments. -/
def headRequest (args : List Bytes) : Except PartFault (Amount × Titles × List Bytes) := do
  let (a, titles, args) ← match args with
    | ('-' :: c :: more) :: rest =>
      if c.isDigit then
        let digits := (c :: more).takeWhile Char.isDigit
        match oldHeadLetters {} .usual [] ((c :: more).drop digits.length) with
        | .error letter => throw ⟨s!"invalid trailing option -- {letter}", true⟩
        | .ok (a, titles, suffix) =>
          match a.reading (digits ++ suffix) with
          | .ok a => pure (a, titles, rest)
          | .error fault => throw ⟨fault, false⟩
      else pure (({} : Amount), Titles.usual, args)
    | args => pure ({}, .usual, args)
  let (given, operands) := ({ letters := "c:n:qvz0123456789", words := partWords } : OptionRules).readSoFar args
  let (a, titles) ← given.foldlM headOption (a, titles)
  match operands with
  | .ok files => return (a, titles, files)
  | .error fault => throw ⟨fault, true⟩

/-- Writes the first lines or bytes. From what comes in no more is taken than is needed: as many
bytes as are wanted, or whole blocks until there are lines enough. -/
def head : Program := fun j =>
  match headRequest j.args with
  | .error fault => if fault.hint then j.misused 1 fault.message else j.fail 1 fault.message
  | .ok (a, titles, files) =>
    writeParts j titles files a.first do
      let bytes := (← get).input
      let output := a.first bytes
      let taken :=
        if a.other then bytes.length
        else if a.bytes then a.count
        else if a.count = 0 then 0
        else max 1 ((output.length + blockSize - 1) / blockSize) * blockSize
      modify fun w => { w with input := bytes.drop taken }
      return output

/-! ### The last part -/

/-- The amount that a first argument in the old style asks for. -/
def oldTail? (args : List Bytes) : Option (Except String Amount × List Bytes) :=
  match args with
  | [] => none
  | first :: rest =>
    let isOld := match rest with
      | [] => true
      | [other] => other = ['-'] || other.head? != some '-' || other = ['-', '-']
      | [dashes, _] => dashes = ['-', '-']
      | _ => false
    let (start?, text) : Option Bool × Bytes := match first with
      | '+' :: text => (some true, text)
      | ['-'] => (none, [])
      | ['-', 'c'] => (none, [])
      | '-' :: text => (some false, text)
      | _ => (none, [])
    match isOld, start? with
    | true, some start =>
      let digits := text.takeWhile Char.isDigit
      let after := text.drop digits.length
      let (bytes, usual, after) := match after with
        | 'b' :: after => (true, 5120, after)
        | 'c' :: after => (true, 10, after)
        | 'l' :: after => (false, 10, after)
        | after => (false, 10, after)
      let unit := if bytes && usual = 5120 then 512 else 1
      if after.isEmpty || after = ['f'] then
        let count := if digits.isEmpty then usual else (natOf? digits).getD 0 * unit
        let result : Except String Amount :=
          if greatestUnsigned < count then
            .error s!"invalid number: {quoted first}: Numerical result out of range"
          else .ok { bytes, count, other := start }
        some (result, rest)
      else none
    | _, _ => none

/-- The amount and the titles with an option of the command for the last part. -/
def tailOption (state : Amount × Titles) (g : Given) : Except PartFault (Amount × Titles) := do
  let (a, titles) := state
  let counted (bytes : Bool) : Except PartFault (Amount × Titles) := do
    let (other, value) := match g.value with
      | '-' :: value => (a.other, value)
      | '+' :: _ => (true, g.value)
      | value => (a.other, value)
    match { a with bytes, other }.reading value with
    | .ok a => return (a, titles)
    | .error fault => throw ⟨fault, false⟩
  match g.letter with
  | 'c' => counted true
  | 'n' => counted false
  | 'q' => return (a, .never)
  | 'v' => return (a, .always)
  | 'z' => return ({ a with mark := '\x00' }, titles)
  | 's' =>
    if g.value.any Char.isDigit && g.value.all fun c => c.isDigit || c = '.' then return state
    else throw ⟨s!"invalid number of seconds: {quoted g.value}", false⟩
  | '\x01' =>
    match ({ refusal := "invalid PID", high := 2 ^ 31 - 1 } : AmountRules).read g.value with
    | .ok _ => return state
    | .error fault => throw ⟨fault, false⟩
  | letter =>
    if letter.isDigit then throw ⟨s!"option used in invalid context -- {letter}", false⟩
    else return state

/-- What is asked of the command for the last part, with its other arguments. -/
def tailRequest (args : List Bytes) : Except PartFault (Amount × Titles × List Bytes) := do
  let (a, args) ← match oldTail? args with
    | some (.ok a, rest) => pure (a, rest)
    | some (.error fault, _) => throw ⟨fault, false⟩
    | none => pure (({} : Amount), args)
  let rules : OptionRules := {
    letters := "c:n:fFqs:vz0123456789\x01:\x02:\x03::\x04"
    words := partWords ++ [("follow", '\x03'), ("pid", '\x01'), ("max-unchanged-stats", '\x02'),
      ("retry", '\x04'), ("sleep-interval", 's')] }
  let (given, operands) := rules.readSoFar args
  let (a, titles) ← given.foldlM tailOption (a, .usual)
  match operands with
  | .ok files => return (a, titles, files)
  | .error fault => throw ⟨fault, true⟩

/-- Writes the last lines or bytes. -/
def tail : Program := fun j =>
  match tailRequest j.args with
  | .error fault => if fault.hint then j.misused 1 fault.message else j.fail 1 fault.message
  | .ok (a, titles, files) =>
    writeParts j titles files a.last do
      return a.last (← Running.takeInput)

end FormatChain.Tools
