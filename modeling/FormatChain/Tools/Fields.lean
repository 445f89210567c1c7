import FormatChain.Process.Numeral
import FormatChain.Process.Options

/-!
# Fields of lines

Lines consist of bytes, or of fields with separators between them.  Lists of numbers and ranges say
which of them are wanted.

* `FieldRange`, `readFields` : lists of fields.
* `cut` : writing the fields wanted.
* `paste` : lines of several files next to each other.
-/

namespace FormatChain.Tools

open FormatChain.Process

/-! ## Lists of fields -/

/-- Fields in a row. -/
structure FieldRange where
  /-- The first one. -/
  low : Nat
  /-- The last one; none if there is no end. -/
  high : Option Nat
  deriving Repr, Inhabited

/-- Whether a field is in the range. -/
def FieldRange.holds (r : FieldRange) (n : Nat) : Bool := r.low ≤ n && r.high.all (n ≤ ·)

/-- How the fields of a list are called in complaints. -/
structure FieldWording where
  /-- Whether they are bytes. -/
  positions : Bool := false
  /-- Whether a dash alone stands for all of them. -/
  dashAlone : Bool := false

/-- The greatest number of a field. -/
def fieldLimit : Nat := 2 ^ 64 - 2

/-- A part of a list, or what is wrong with it. What follows the part in the list is given for the
complaint. -/
def readFieldRange (w : FieldWording) (part rest : Bytes) : Except String FieldRange :=
  let fromOne := if w.positions then "byte/character positions are numbered from 1"
    else "fields are numbered from 1"
  let tooLarge (digits : Bytes) : String :=
    if w.positions then s!"byte/character offset {quoted digits} is too large"
    else s!"field number {quoted digits} is too large"
  let invalid (text : Bytes) : String :=
    if w.positions then s!"invalid byte/character position {quoted (text ++ rest)}"
    else s!"invalid field value {quoted (text ++ rest)}"
  let low := part.takeWhile Char.isDigit
  let n := (natOf? low).getD 0
  if fieldLimit < n then .error (tooLarge low)
  else
    match part.drop low.length with
    | [] => if n = 0 then .error fromOne else .ok ⟨n, some n⟩
    | '-' :: after =>
      if !low.isEmpty && n = 0 then .error fromOne
      else
        let high := after.takeWhile Char.isDigit
        let m := (natOf? high).getD 0
        let least := if low.isEmpty then 1 else n
        if fieldLimit < m then .error (tooLarge high)
        else
          match after.drop high.length with
          | [] =>
            if high.isEmpty then
              if low.isEmpty && !w.dashAlone then .error "invalid range with no endpoint: -"
              else .ok ⟨least, none⟩
            else if m < least then .error "invalid decreasing range"
            else .ok ⟨least, some m⟩
          | '-' :: _ => .error (if w.positions then "invalid byte or character range" else "invalid field range")
          | other => .error (invalid other)
    | other => .error (invalid other)

/-- The parts of a list between commas and blanks, each with what follows it in the list. -/
def fieldParts (text : Bytes) : List (Bytes × Bytes) :=
  let parts := splitAtByte ',' (text.map fun c => if isBlankByte c then ',' else c)
  let step := fun (state : List (Bytes × Bytes) × Nat) (part : Bytes) =>
    let place := state.2 + part.length
    ((part, text.drop place) :: state.1, place + 1)
  (parts.foldl step ([], 0)).1.reverse

/-- Ranges in order, those that have fields in common as one. -/
def mergedRanges : List FieldRange → List FieldRange
  | a :: rest =>
    match mergedRanges rest with
    | b :: others =>
      if a.high.all (b.low ≤ ·) then
        let high := match a.high, b.high with
          | some m, some n => some (max m n)
          | _, _ => none
        ⟨a.low, high⟩ :: others
      else a :: b :: others
    | [] => [a]
  | [] => []

/-- The ranges of all other fields, from one on. -/
def otherRanges (next : Nat) : List FieldRange → List FieldRange
  | [] => [⟨next, none⟩]
  | r :: rest =>
    let before : List FieldRange := if next < r.low then [⟨next, some (r.low - 1)⟩] else []
    match r.high with
    | some high => before ++ otherRanges (high + 1) rest
    | none => before

/-- The ranges of a list in order, or what is wrong with it. -/
def readFields (w : FieldWording) (text : Bytes) : Except String (List FieldRange) := do
  let ranges ← (fieldParts text).mapM fun (part, rest) => readFieldRange w part rest
  return mergedRanges (ranges.mergeSort fun a b => a.low ≤ b.low)

/-! ## Cutting -/

/-- What is cut out of lines. -/
structure Cutting where
  /-- The ranges wanted. -/
  ranges : List FieldRange
  /-- The byte between fields; none if bytes are counted. -/
  separator : Option Char
  /-- What is written between fields. -/
  between : Option Bytes
  /-- Whether lines without a separator are left out. -/
  onlySeparated : Bool
  /-- The byte that ends lines. -/
  mark : Char

namespace Cutting

/-- Whether a field is wanted. -/
def wants (c : Cutting) (n : Nat) : Bool := c.ranges.any (·.holds n)

/-- The bytes wanted of a line. -/
def bytesOfLine (c : Cutting) (body : Bytes) : Bytes :=
  let step := fun (state : List Bytes × Bool) (entry : Char × Nat) =>
    let (done, begun) := state
    if !c.wants entry.2 then state
    else
      let before := match c.between with
        | some between => if begun && c.ranges.any (·.low = entry.2) then between else []
        | none => []
      ((before ++ [entry.1]) :: done, true)
  ((body.zipIdx 1).foldl step ([], false)).1.reverse.flatten

/-- The fields wanted of some fields. -/
def fieldsOf (c : Cutting) (separator : Char) (fields : List Bytes) : Bytes :=
  joinWith (c.between.getD [separator])
    ((fields.zipIdx 1).filterMap fun (field, n) => if c.wants n then some field else none)

/-- What is wanted of a text. -/
def apply (c : Cutting) (bytes : Bytes) : Bytes :=
  match c.separator with
  | none => (linesEndedBy c.mark bytes).flatMap fun line => c.bytesOfLine line.body ++ [c.mark]
  | some separator =>
    if separator = c.mark then
      let fields := (linesEndedBy c.mark bytes).map (·.body)
      if fields.isEmpty || (c.onlySeparated && fields.length ≤ 1) then []
      else c.fieldsOf separator fields ++ [c.mark]
    else
      (linesEndedBy c.mark bytes).flatMap fun line =>
        if line.body.contains separator then
          c.fieldsOf separator (splitAtByte separator line.body) ++ [c.mark]
        else if c.onlySeparated then []
        else line.body ++ [c.mark]

end Cutting

/-- Whether an option gives a list of fields. -/
def isFieldList (g : Given) : Bool := g.letter == 'b' || g.letter == 'c' || g.letter == 'f'

/-- What is wrong with options up to one of them, given those before. -/
def cutOptionFault? (before : List Given) (g : Given) : Option String :=
  if isFieldList g && before.any isFieldList then some "only one list may be specified"
  else if g.letter == 'd' && 1 < g.value.length then some "the delimiter must be a single character"
  else none

/-- What is wrong with options, the first of them that is. -/
def cutFault? (before : List Given) : List Given → Option String
  | [] => none
  | g :: rest => (cutOptionFault? before g).or (cutFault? (g :: before) rest)

/-- What is to be cut out, or what is wrong with the options. -/
def readCutting (given : List Given) : Except String Cutting := do
  match given.find? isFieldList with
  | none => throw "you must specify a list of bytes, characters, or fields"
  | some list =>
    let byFields := list.letter == 'f'
    if !byFields && has given 'd' then
      throw "an input delimiter may be specified only when operating on fields"
    if !byFields && has given 's' then
      throw "suppressing non-delimited lines makes sense\n\tonly when operating on fields"
    let ranges ← readFields { positions := !byFields } list.value
    let separator := match valueOf? given 'd' with
      | some value => value.headD '\x00'
      | none => '\t'
    return {
      ranges := if has given 'X' then otherRanges 1 ranges else ranges
      separator := if byFields then some separator else none
      between := (valueOf? given 'O').map fun value => if value.isEmpty then ['\x00'] else value
      onlySeparated := has given 's'
      mark := if has given 'z' then '\x00' else '\n' }

/-- Cuts fields out of lines. -/
def cut : Program := fun j =>
  let rules : OptionRules := {
    letters := "b:c:d:f:nszO:X"
    words := [("bytes", 'b'), ("characters", 'c'), ("delimiter", 'd'), ("fields", 'f'),
      ("only-delimited", 's'), ("zero-terminated", 'z'), ("output-delimiter", 'O'),
      ("complement", 'X')] }
  let (given, operands) := rules.readSoFar j.args
  match cutFault? [] given, operands with
  | some fault, _ => j.misused 1 fault
  | none, .error fault => j.misused 1 fault
  | none, .ok files =>
    match readCutting given with
    | .error fault => j.misused 1 fault
    | .ok c => j.change files c.apply

/-! ## Putting lines together -/

/-- Lines of several files next to each other, in at most so many rows. -/
def pasteRows (separators : List Bytes) (mark : Char) :
    Nat → List (List Bytes) → List Bytes → List Bytes
  | 0, _, done => done.reverse
  | rows + 1, columns, done =>
    if columns.all List.isEmpty then done.reverse
    else
      let row := columns.zipIdx.flatMap fun (column, i) =>
        (if i = 0 then [] else separators.getD ((i - 1) % max 1 separators.length) [])
          ++ column.headD []
      pasteRows separators mark rows (columns.map (·.drop 1)) ((row ++ [mark]) :: done)

/-- The separators that are written one after the other; none if a backslash ends them. -/
def readSeparators? : Bytes → Option (List Bytes)
  | ['\\'] => none
  | '\\' :: c :: rest =>
    (readSeparators? rest).map ((match c with
      | 'b' => ['\x08']
      | 'f' => ['\x0c']
      | 'n' => ['\n']
      | 'r' => ['\r']
      | 't' => ['\t']
      | 'v' => ['\x0b']
      | '0' => []
      | c => [c]) :: ·)
  | c :: rest => (readSeparators? rest).map ([c] :: ·)
  | [] => some []

/-- Puts lines next to each other. -/
def paste : Program := fun j =>
  let rules : OptionRules := {
    letters := "d:sz"
    words := [("delimiters", 'd'), ("serial", 's'), ("zero-terminated", 'z')] }
  j.withOptions 1 rules fun given files => do
    let written := (valueOf? given 'd').getD ['\t']
    match readSeparators? written with
    | none => j.fail 1 s!"delimiter list ends with an unescaped backslash: {textOf written}"
    | some separators =>
      let separators := if separators.isEmpty then [[]] else separators
      let mark := if has given 'z' then '\x00' else '\n'
      let files := if files.isEmpty then [['-']] else files
      let dashes := (files.filter (· == ['-'])).length
      let inputLines ← if dashes > 0 then do
          pure ((linesEndedBy mark (← Running.takeInput)).map (·.body))
        else pure []
      let mut columns : List (List Bytes) := []
      let mut taken := 0
      let mut well := true
      for file in files do
        if file = ['-'] then
          let every := if has given 's' then (if taken = 0 then inputLines else [])
            else (inputLines.zipIdx.filter fun entry => entry.2 % dashes == taken).map (·.1)
          columns := every :: columns
          taken := taken + 1
        else
          match ← j.readOperand file with
          | some bytes => columns := ((linesEndedBy mark bytes).map (·.body)) :: columns
          | none =>
            if has given 's' then well := false else return .code 1
      if has given 's' then
        for column in columns.reverse do
          let row := column.zipIdx.flatMap fun (item, i) =>
            (if i = 0 then [] else separators.getD ((i - 1) % max 1 separators.length) []) ++ item
          Running.write (row ++ [mark])
      else
        let most := columns.foldl (fun n column => max n column.length) 0
        Running.write (pasteRows separators mark most columns.reverse []).flatten
      return statusOf well

end FormatChain.Tools
