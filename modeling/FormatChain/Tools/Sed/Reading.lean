import FormatChain.Regex.Reading
import FormatChain.Tools.Sed.Script

/-!
# Reading editing scripts

A script is given in pieces: arguments and files.  Commands are read one after the other; each takes as
much of its piece as it needs.  Braces put commands together, labels mark places to go to, and both are
resolved at the end.  A text that a backslash leaves open at the end of a piece goes on in the next one.

* `ScriptPiece` : where a piece comes from, and its bytes.
* `Script.read` : the script that pieces write, or what is wrong with them.
-/

namespace FormatChain.Tools.Sed

open FormatChain.Process

/-- A piece of a script. -/
structure ScriptPiece where
  /-- The file that it comes from, unless it was given as an argument. -/
  file : Option Bytes
  /-- The bytes. -/
  bytes : Bytes

/-- Where a label is asked for. -/
structure Jump where
  /-- The place of the step. -/
  place : Nat
  /-- The label. -/
  label : Bytes
  /-- On which condition. -/
  replaced : Option Bool

/-- A block that is open. -/
structure OpenBlock where
  /-- The place of its step. -/
  place : Nat
  /-- The lines that it is meant for. -/
  selector : Selector
  /-- Where in the script it was opened. -/
  start : ScriptPlace

/-- What is the same for the whole script. -/
structure ScriptManner where
  /-- The way of writing patterns. -/
  rules : RegexRules
  /-- The byte that ends lines. -/
  mark : Char := '\n'
  /-- Whether commands are refused that reach out to files and programs. -/
  confined : Bool := false

/-- A script that is being read. -/
structure Reader where
  /-- The bytes that are left. -/
  rest : Bytes := []
  /-- How many bytes were read of the piece. -/
  count : Nat := 0
  /-- How many line ends were read of the piece. -/
  lines : Nat := 0
  /-- The file that the piece comes from. -/
  file : Option Bytes := none
  /-- How many pieces were given as arguments. -/
  arguments : Nat := 0
  /-- The steps, the last one first. -/
  steps : List Step := []
  /-- The blocks that are open. -/
  blocks : List OpenBlock := []
  /-- The labels with their places. -/
  labels : List (Bytes × Nat) := []
  /-- The jumps. -/
  jumps : List Jump := []
  /-- The text of the last step if it goes on in the next piece, with what becomes of it. -/
  openText : Option (Bytes × (Bytes → Edit)) := none

/-- What is wrong with a script. -/
inductive ScriptFault where
  /-- Something is wrong at a place. -/
  | atPlace (place : ScriptPlace) (message : String)
  /-- A label is asked for that is not there. -/
  | noLabel (label : Bytes)

/-- Reading a script. -/
abbrev Reading := ReaderT ScriptManner (StateT Reader (Except ScriptFault))

/-- The place that a reader has come to, after so many bytes of the piece. -/
def Reader.placeAfter (s : Reader) (count : Nat) : ScriptPlace :=
  match s.file with
  | some name => .file name (s.lines + 1)
  | none => .argument s.arguments count

/-- Complains at this place. -/
def wrong {α : Type} (message : String) : Reading α := do
  let s ← get
  throw (.atPlace (s.placeAfter s.count) message)

/-- A result, or a complaint at this place. -/
def orWrong {α : Type} (result : Except String α) : Reading α :=
  match result with
  | .ok x => pure x
  | .error message => wrong message

/-! ## Bytes and words -/

/-- The reader after a byte. -/
def Reader.after (s : Reader) (c : Char) (rest : Bytes) : Reader :=
  { s with rest, count := s.count + 1, lines := if c = '\n' then s.lines + 1 else s.lines }

/-- The next byte, taken. -/
def take : Reading (Option Char) := do
  let s ← get
  match s.rest with
  | [] => return none
  | c :: rest =>
    set (s.after c rest)
    return some c

/-- The next byte, left where it is. -/
def peek : Reading (Option Char) := do return (← get).rest.head?

/-- Takes bytes of a kind. -/
def takeWhile (kind : Char → Bool) : Reading Bytes := do
  let s ← get
  let found := s.rest.takeWhile kind
  set (found.foldl (fun s c => s.after c (s.rest.drop 1)) s)
  return found

/-- Takes blanks. -/
def skipBlanks : Reading Unit := do
  let _ ← takeWhile isBlankByte

/-- Takes a number. -/
def takeNumber : Reading Nat := do return (readNat (← takeWhile Char.isDigit)).1

/-- Ends a command. -/
def endCommand : Reading Unit := do
  skipBlanks
  match ← peek with
  | none => return
  | some '\x7d' => return
  | some '#' => return
  | some c =>
    let _ ← take
    if c = '\n' || c = ';' then return else wrong "extra characters after command"

/-- What is said of commands that reach out if these are refused. -/
def confinedFault : String := "e/r/w commands disabled in sandbox mode"

/-- The name of a file, up to the end of the line. -/
def readName : Reading Bytes := do
  if (← read).confined then wrong confinedFault
  skipBlanks
  let name ← takeWhile (· != '\n')
  if name.isEmpty then wrong "missing filename in r/R/w/W commands"
  else
    let _ ← take
    return name

/-- A label. -/
def readLabel : Reading Bytes := do
  skipBlanks
  takeWhile fun c => !isSpaceByte c && c != ';' && c != '\x7d'

/-- A number after a command, if there is one. -/
def optionalNumber : Reading (Option Nat) := do
  skipBlanks
  match ← peek with
  | some c => if c.isDigit then return some (← takeNumber) else return none
  | none => return none

/-! ## Texts between marks -/

/-- The bytes up to a mark, in at most so many steps; none if a line or everything ends before it. In a
pattern, sets may hold the mark. -/
def untilMark (mark : Char) (isPattern : Bool) : Nat → SetPlace → Bytes → Reading (Option Bytes)
  | 0, _, _ => return none
  | steps + 1, place, done => do
    match ← peek with
    | none => return none
    | some '\n' => return none
    | some c =>
      let _ ← take
      let following ← peek
      if place != .outside then
        untilMark mark isPattern steps (place.next c following) (c :: done)
      else if c = mark then return some done.reverse
      else if c = '\\' then
        match ← take with
        | none => return none
        | some d =>
          if d = 'n' && isPattern then untilMark mark isPattern steps place ('\n' :: done)
          else if d = '\n' then untilMark mark isPattern steps place ('\n' :: done)
          else if d = mark && (isPattern || d != '&') then
            untilMark mark isPattern steps place (d :: done)
          else untilMark mark isPattern steps place (d :: '\\' :: done)
      else
        let place := if isPattern then place.next c following else place
        untilMark mark isPattern steps place (c :: done)

/-- The bytes up to a mark. -/
def markedText (mark : Char) (isPattern : Bool) : Reading (Option Bytes) := do
  untilMark mark isPattern ((← get).rest.length + 1) .outside []

/-- The pattern that bytes write; none if they are empty. -/
def readPattern (text : Bytes) (fold manyLines : Bool) : Reading (Option Pattern) := do
  if text.isEmpty then
    if fold || manyLines then wrong "cannot specify modifiers on empty regexp" else return none
  else
    let manner ← read
    let rules := { manner.rules with fold, lineMark := if manyLines then some manner.mark else none }
    match Pattern.read rules (← orWrong (patternText text)) with
    | .ok p => return some p
    | .error e => wrong e.message

/-! ## Addresses -/

/-- The letters after the pattern of an address, in at most so many steps. -/
def addressLetters : Nat → Bool × Bool → Reading (Bool × Bool)
  | 0, found => return found
  | steps + 1, (fold, manyLines) => do
    skipBlanks
    match ← peek with
    | some 'I' =>
      let _ ← take
      addressLetters steps (true, manyLines)
    | some 'M' =>
      let _ ← take
      addressLetters steps (fold, true)
    | _ => return (fold, manyLines)

/-- The pattern of an address after its first mark. -/
def readFitting (mark : Char) : Reading Address := do
  match ← markedText mark true with
  | none => wrong "unterminated address regex"
  | some text =>
    let (fold, manyLines) ← addressLetters ((← get).rest.length + 1) (false, false)
    return .fitting (← readPattern text fold manyLines)

/-- An address, if there is one. -/
def readAddress? : Reading (Option RangeEnd) := do
  let found (a : Address) : Reading (Option RangeEnd) := return some (.address a)
  match ← peek with
  | some '$' =>
    let _ ← take
    found .last
  | some '/' =>
    let _ ← take
    found (← readFitting '/')
  | some '\\' =>
    let _ ← take
    match ← take with
    | some mark => found (← readFitting mark)
    | none => wrong "unterminated address regex"
  | some '+' =>
    let _ ← take
    skipBlanks
    return some (.more (← takeNumber))
  | some '~' =>
    let _ ← take
    skipBlanks
    return some (.multiple (← takeNumber))
  | some c =>
    if c.isDigit then
      let n ← takeNumber
      skipBlanks
      match ← peek with
      | some '~' =>
        let _ ← take
        skipBlanks
        let step ← takeNumber
        found (if step = 0 then .line n else .every n step)
      | _ => found (.line n)
    else return none
  | none => return none

/-- The end of a range after a comma, if there is a comma. -/
def readRangeEnd? : Reading (Option RangeEnd) := do
  if (← peek) = some ',' then
    let _ ← take
    skipBlanks
    match ← readAddress? with
    | some stop =>
      skipBlanks
      return some stop
    | none =>
      let _ ← take
      wrong "unexpected \x60,'"
  else return none

/-- The addresses that the next command is meant for. -/
def readAddresses : Reading (Option Address × Option RangeEnd) := do
  match ← readAddress? with
  | none => return (none, none)
  | some (.address first) =>
    skipBlanks
    let last ← readRangeEnd?
    match first, last with
    | .line 0, some (.address (.fitting _)) => return (some first, last)
    | .line 0, _ =>
      let _ ← take
      wrong "invalid usage of line address 0"
    | _, _ => return (some first, last)
  | some _ => wrong "invalid usage of +N or ~N as first address"

/-- The lines that the next command is meant for. -/
def readSelector : Reading Selector := do
  let (first, last) ← readAddresses
  if (← peek) = some '!' then
    let _ ← take
    skipBlanks
    if (← peek) = some '!' then
      let _ ← take
      wrong "multiple \x60!'s"
    return { first, last, others := true }
  else return { first, last }

/-! ## Commands -/

/-- Adds a step. -/
def addStep (selector : Selector) (edit : Edit) : Reading Unit :=
  modify fun s => { s with steps := ⟨selector, edit⟩ :: s.steps }

/-- The text of a command up to a line end without a backslash before it, in at most so many steps,
and whether it has an end. -/
def textLines : Nat → Bytes → Reading (Bytes × Bool)
  | 0, done => return (done.reverse, true)
  | steps + 1, done => do
    match ← take with
    | none => return (done.reverse, true)
    | some '\n' => return (done.reverse, true)
    | some '\\' =>
      match ← take with
      | none => return (done.reverse, false)
      | some c => textLines steps (c :: '\\' :: done)
    | some c => textLines steps (c :: done)

/-- Reads the text of the last step, given what it begins with and what becomes of it. -/
def finishText (start : Bytes) (edit : Bytes → Edit) : Reading Unit := do
  let (text, ended) ← textLines ((← get).rest.length + 1) []
  let whole := start ++ text ++ ['\n']
  let meant ← orWrong (plainText whole)
  modify fun s => { s with
    openText := if ended then none else some (whole, edit)
    steps :=
      match s.steps with
      | step :: others => { step with edit := edit meant } :: others
      | [] => [] }

/-- Reads the text of a command, for which a step is added. -/
def readText (selector : Selector) (edit : Bytes → Edit) : Reading Unit := do
  addStep selector (edit [])
  if (← peek) = some '\\' then
    let _ ← take
    if (← peek) = some '\n' then
      let _ ← take
      finishText [] edit
    else if (← peek).isNone then modify fun s => { s with openText := some ([], edit) }
    else finishText [] edit
  else finishText [] edit

/-- A substitution with the letters after it, and whether it ignores case, takes many lines, and has a
number. -/
structure SubstitutionReader where
  /-- The substitution. -/
  result : Substitution
  /-- Whether capital and small letters are the same. -/
  fold : Bool := false
  /-- Whether line ends inside the text end lines. -/
  manyLines : Bool := false
  /-- Whether a number was given. -/
  numbered : Bool := false

/-- The letters after a substitution, in at most so many steps. -/
def readSubstitutionLetters : Nat → SubstitutionReader → Reading SubstitutionReader
  | 0, r => return r
  | steps + 1, r => do
    let s := r.result
    let go (s : Substitution) := readSubstitutionLetters steps { r with result := s }
    match ← peek with
    | none => return r
    | some '\x7d' => return r
    | some '#' => return r
    | some c =>
      let _ ← take
      match c with
      | '\n' => return r
      | ';' => return r
      | ' ' => go s
      | '\t' => go s
      | '\r' =>
        if (← peek) = some '\n' then
          let _ ← take
          return r
        else wrong "unknown option to \x60s'"
      | 'i' => readSubstitutionLetters steps { r with fold := true }
      | 'I' => readSubstitutionLetters steps { r with fold := true }
      | 'm' => readSubstitutionLetters steps { r with manyLines := true }
      | 'M' => readSubstitutionLetters steps { r with manyLines := true }
      | 'e' =>
        if (← read).confined then wrong confinedFault
        else go { s with executes := true }
      | 'g' =>
        if s.everywhere then wrong "multiple \x60g' options to \x60s' command"
        else go { s with everywhere := true }
      | 'p' =>
        if s.prints || s.printsBefore then wrong "multiple \x60p' options to \x60s' command"
        else if s.executes then go { s with prints := true }
        else go { s with printsBefore := true }
      | 'w' => return { r with result := { s with file := some (← readName) } }
      | c =>
        if c.isDigit then
          if r.numbered then wrong "multiple number options to \x60s' command"
          else
            let digits ← takeWhile Char.isDigit
            let n := (readNat (c :: digits)).1
            if n = 0 then wrong "number option to \x60s' command may not be zero"
            else readSubstitutionLetters steps { r with result := { s with number := n }, numbered := true }
        else wrong "unknown option to \x60s'"

/-- The greatest number of a group that a replacement asks for. -/
def greatestGroup (pieces : List ReplacementPiece) : Nat :=
  pieces.foldl (fun n piece => max n (piece.group.getD 0)) 0

/-- A substitution after its letter. -/
def readSubstitution : Reading Substitution := do
  let unfinished := "unterminated \x60s' command"
  match ← take with
  | none => wrong unfinished
  | some mark =>
    match ← markedText mark true with
    | none => wrong unfinished
    | some pattern =>
      match ← markedText mark false with
      | none => wrong unfinished
      | some text =>
        let replacement ← orWrong (readReplacement text)
        let r ← readSubstitutionLetters ((← get).rest.length + 1) { result := { pattern := none, replacement } }
        let p ← readPattern pattern r.fold r.manyLines
        let most := greatestGroup replacement
        let s := if r.result.executes then r.result
          else { r.result with prints := r.result.printsBefore, printsBefore := false }
        match p with
        | some p =>
          if p.groups < most then wrong s!"invalid reference \\{most} on \x60s' command's RHS"
          else return { s with pattern := some p }
        | none => return s

/-- The bytes to be changed after the letter of the command, with what becomes of them. -/
def readTranslation : Reading (List (Char × Char)) := do
  let unfinished := "unterminated \x60y' command"
  match ← take with
  | none => wrong unfinished
  | some mark =>
    match ← markedText mark false with
    | none => wrong unfinished
    | some old =>
      match ← markedText mark false with
      | none => wrong unfinished
      | some new =>
        let old ← orWrong (plainText old)
        let new ← orWrong (plainText new)
        if old.length = new.length then
          endCommand
          return old.zip new
        else wrong "strings for \x60y' command are different lengths"

/-- A command without anything after its letter. -/
def plainEdit? (letter : Char) : Option Edit :=
  match letter with
  | 'd' => some .delete
  | 'D' => some .deleteFirst
  | 'g' => some (.recall false)
  | 'G' => some (.recall true)
  | 'h' => some (.keep false)
  | 'H' => some (.keep true)
  | 'n' => some .next
  | 'N' => some .addNext
  | 'p' => some .print
  | 'P' => some .printFirst
  | 'x' => some .exchange
  | 'z' => some .empty
  | '=' => some .number
  | 'F' => some .name
  | _ => none

/-- What a text after a letter is for. -/
def textEdit (letter : Char) (text : Bytes) : Edit :=
  match letter with
  | 'a' => .append text
  | 'i' => .insert text
  | 'c' => .change text
  | _ => .execute text.dropLast

/-- What a number after a letter is for. -/
def numberEdit (letter : Char) (n : Option Nat) : Edit :=
  match letter with
  | 'q' => .quit true (n.getD 0)
  | 'Q' => .quit false (n.getD 0)
  | 'l' => .list n
  | letter => .obsolete letter

/-- The version that scripts may ask for. -/
def ownVersion : List Nat := [4, 9]

/-- Whether a version asked for is newer than the one that scripts may ask for. -/
def isNewer (label : Bytes) : Bool :=
  let numbers := (splitAtByte '.' label).map natOf?
  if numbers.all Option.isSome then
    decide (ownVersion < numbers.filterMap id)
  else !label.isEmpty

/-- Begins or ends a block, or reads a label or a jump. -/
def readStructure (selector : Selector) (letter : Char) : Reading Unit := do
  let here := (← get).steps.length
  let jump (replaced : Option Bool) : Reading Unit := do
    let label ← readLabel
    modify fun s => { s with jumps := ⟨here, label, replaced⟩ :: s.jumps }
    addStep selector .nothing
  match letter with
  | '\x7b' =>
    modify fun s => { s with blocks := ⟨here, selector, s.placeAfter 0⟩ :: s.blocks }
    addStep selector .nothing
  | '\x7d' =>
    match (← get).blocks with
    | [] => wrong "unexpected \x60\x7d'"
    | block :: blocks =>
      if selector.first.isSome then wrong "\x60\x7d' doesn't want any addresses"
      else
        endCommand
        modify fun s => { s with
          blocks
          steps := s.steps.modify (here - 1 - block.place) fun _ => ⟨block.selector, .block here⟩ }
  | ':' =>
    if selector.first.isSome then wrong ": doesn't want any addresses"
    else
      let label ← readLabel
      if label.isEmpty then wrong "\":\" lacks a label"
      else modify fun s => { s with labels := (label, here) :: s.labels }
  | 'b' => jump none
  | 't' => jump (some true)
  | 'T' => jump (some false)
  | 'v' =>
    if isNewer (← readLabel) then wrong "expected newer version of sed" else return
  | _ => wrong s!"unknown command: \x60{textOf [letter]}'"

/-- A command of a letter for the lines given. -/
def readCommand (selector : Selector) (letter : Char) : Reading Unit := do
  match plainEdit? letter with
  | some edit =>
    endCommand
    addStep selector edit
  | none =>
    if letter = 'a' || letter = 'i' || letter = 'c' then
      skipBlanks
      if (← peek).isNone then wrong "expected \\ after \x60a', \x60c' or \x60i'"
      else readText selector (textEdit letter)
    else if letter = 'e' then
      if (← read).confined then wrong confinedFault
      skipBlanks
      match ← take with
      | none => addStep selector (.execute [])
      | some '\n' => addStep selector (.execute [])
      | some c =>
        modify fun s => { s with rest := c :: s.rest, count := s.count - 1 }
        readText selector (textEdit letter)
    else if letter = 'q' || letter = 'Q' || letter = 'l' || letter = 'L' then
      if selector.last.isSome && letter != 'l' && letter != 'L' then
        wrong "command only uses one address"
      let n ← optionalNumber
      endCommand
      addStep selector (numberEdit letter n)
    else
      match letter with
      | 's' => addStep selector (.substitute (← readSubstitution))
      | 'y' => addStep selector (.translate (← readTranslation))
      | 'r' => addStep selector (.readFile (← readName))
      | 'R' => addStep selector (.readLine (← readName))
      | 'w' => addStep selector (.writeFile (← readName) false)
      | 'W' => addStep selector (.writeFile (← readName) true)
      | letter => readStructure selector letter

/-- All commands, in at most so many steps. -/
def readCommands : Nat → Reading Unit
  | 0 => return
  | steps + 1 => do
    let _ ← takeWhile fun c => isSpaceByte c || c = ';'
    match ← peek with
    | none => return
    | some '#' =>
      let _ ← takeWhile (· != '\n')
      readCommands steps
    | some _ =>
      let selector ← readSelector
      match ← take with
      | none => wrong "missing command"
      | some '#' => wrong "comments don't accept any addresses"
      | some letter =>
        readCommand selector letter
        readCommands steps

/-- Reads a piece after the ones before it. -/
def readPiece (piece : ScriptPiece) : Reading Unit := do
  modify fun s => { s with
    rest := piece.bytes
    count := 0
    lines := 0
    file := piece.file
    arguments := if piece.file.isNone then s.arguments + 1 else s.arguments }
  match (← get).openText with
  | some (start, edit) => finishText start edit
  | none => pure ()
  readCommands (piece.bytes.length + 1)

/-! ## Scripts -/

/-- The place of a label; no label stands for the end. -/
def Reader.placeOfLabel (s : Reader) (label : Bytes) : Except ScriptFault Nat :=
  if label.isEmpty then .ok s.steps.length
  else
    match s.labels.find? fun entry => entry.1 = label with
    | some (_, place) => .ok place
    | none => .error (.noLabel label)

/-- The steps with all jumps leading to their places. -/
def Reader.resolvedSteps (s : Reader) : Except ScriptFault (Array Step) :=
  s.jumps.reverse.foldlM
    (fun steps jump => do
      let target ← s.placeOfLabel jump.label
      return steps.modify jump.place fun step => { step with edit := .jump target jump.replaced })
    s.steps.reverse.toArray

/-- The script that pieces write, or what is wrong with them. -/
def Script.read (manner : ScriptManner) (pieces : List ScriptPiece) : Except ScriptFault Script := do
  let (_, r) ← ((pieces.forM readPiece).run manner).run {}
  match r.blocks with
  | block :: _ => throw (.atPlace block.start "unmatched \x60\x7b'")
  | [] =>
    let steps ← r.resolvedSteps
    let start := ((pieces.head?.map (·.bytes)).getD []).take 2
    return { steps, quiet := start = ['#', 'n'], ending := r.placeAfter 0 }

end FormatChain.Tools.Sed
