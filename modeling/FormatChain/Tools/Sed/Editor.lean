import FormatChain.Process.World
import FormatChain.Tools.Sed.Script

/-!
# Editing lines

A script is run once for each line.  The line can be changed, kept for later, and written; it is
written at the end of the cycle by itself unless that is not wanted.  A line without an end is written
without one, and gets it when something is written after it.

* `Editor` : an editor at work.
* `Editing` : editing, which reads files and runs programs.
* `cycle`, `editLines` : running a script for a line, and for all lines.
-/

namespace FormatChain.Tools.Sed

open FormatChain.Process

/-- Whether a range of lines is open, and up to which line. -/
inductive RangeState where
  /-- It is not. -/
  | closed
  /-- It is, up to the end that is not known yet. -/
  | opened
  /-- It is, up to a line. -/
  | upTo (n : Nat)
  deriving Inhabited, DecidableEq

/-- What is written at the end of a cycle. -/
inductive Later where
  /-- A text. -/
  | text (bytes : Bytes)
  /-- A file. -/
  | file (name : Bytes)
  /-- A line of a file, if there was one. -/
  | line (body : Option Bytes)

/-- What was written to one place. -/
structure Sink where
  /-- What was written, the latest first. -/
  written : List Bytes := []
  /-- Whether the line written last had no end. -/
  unfinished : Bool := false
  deriving Inhabited

/-- An editor at work. -/
structure Editor where
  /-- The line. -/
  line : Bytes := []
  /-- Whether the line has an end. -/
  ended : Bool := true
  /-- What is kept. -/
  kept : Bytes := []
  /-- Whether what is kept has an end. -/
  keptEnded : Bool := true
  /-- The number of the line. -/
  number : Nat := 0
  /-- The lines that are left of the file. -/
  rest : List Line := []
  /-- The files that are left. -/
  files : List Bytes := []
  /-- The name of the file; it is empty before the first one. -/
  fileName : Bytes := []
  /-- The bytes of the file. -/
  fileBytes : Bytes := []
  /-- What was written. -/
  output : Sink := {}
  /-- What was written to files. -/
  sinks : List (Bytes × Sink) := []
  /-- What is left of files that are read line by line. -/
  readers : List (Bytes × List Line) := []
  /-- What is written at the end of the cycle, the latest first. -/
  later : List Later := []
  /-- Whether something was replaced since the line was read. -/
  replaced : Bool := false
  /-- Which ranges are open. -/
  ranges : Array RangeState := #[]
  /-- The pattern used last. -/
  lastPattern : Option Pattern := none
  /-- Whether a file could not be read. -/
  missing : Bool := false
  /-- The number with which all ended, if it did. -/
  ending : Option Nat := none
  /-- Whether a complaint ended all. -/
  aborted : Bool := false
  deriving Inhabited

/-- What an editor is told. -/
structure Manner where
  /-- The circumstances. -/
  job : Job
  /-- Runs a script of the system. -/
  runScript : Bytes → Running ExitStatus
  /-- The script. -/
  script : Script
  /-- Whether lines are written by themselves. -/
  prints : Bool
  /-- The byte that ends lines. -/
  mark : Char := '\n'
  /-- The width at which lines are broken that are shown with all bytes. -/
  width : Nat := 70
  /-- Whether lines are counted anew in each file. -/
  separate : Bool := false
  /-- Whether files are changed, and what is put to the names of copies made before. -/
  inPlace : Option Bytes := none

/-- Editing lines. -/
abbrev Editing := ReaderT Manner (StateT Editor Running)

/-- Ends everything with a complaint and a number. -/
def endWith (status : Nat) (complaint : String) : Editing Unit := do
  liftM (m := Running) ((← read).job.complain complaint)
  modify fun e => { e with ending := some status, aborted := true }

/-! ## Writing -/

/-- The sink with bytes; an end is written before them if the last line had none. -/
def Sink.add (s : Sink) (mark : Char) (bytes : Bytes) (unfinished : Bool) : Sink :=
  ⟨bytes :: (if s.unfinished then [mark] :: s.written else s.written), unfinished⟩

/-- Writes bytes. -/
def put (bytes : Bytes) (unfinished : Bool) : Editing Unit := do
  let mark := (← read).mark
  modify fun e => { e with output := e.output.add mark bytes unfinished }

/-- Writes bytes that end in an end of a line, or in none that is missed. -/
def write (bytes : Bytes) : Editing Unit := put bytes false

/-- Writes a text, whose last byte gives way to the end of a line. -/
def writeText (text : Bytes) : Editing Unit := do
  let mark := (← read).mark
  write (if text.isEmpty then [] else text.dropLast ++ [mark])

/-- Writes an end if the last line had none. -/
def finishLine : Editing Unit := write []

/-- A line with its end, if it has one. -/
def withMark (body : Bytes) : Editing Bytes := do
  let mark := (← read).mark
  return if (← get).ended then body ++ [mark] else body

/-- Writes a line. -/
def writeLine (body : Bytes) : Editing Unit := do
  let bytes ← withMark body
  put bytes !(← get).ended

/-- Writes a line to a file. -/
def writeLineTo (name body : Bytes) : Editing Unit := do
  let m ← read
  let e ← get
  let bytes ← withMark body
  let sink := ((e.sinks.find? fun entry => entry.1 = name).map (·.2)).getD {}
  let isOutput := name = "/dev/stdout".toList
  let isComplaints := name = "/dev/stderr".toList
  let special := isOutput || isComplaints
  let added := sink.add m.mark bytes !e.ended
  let new := added.written.take (added.written.length - sink.written.length)
  modify fun e => { e with
    sinks := (name, if special then { added with written := [] } else added)
      :: e.sinks.filter fun entry => entry.1 != name }
  if isComplaints then
    for piece in new.reverse do liftM (m := Running) (Running.put .complaints piece)
  else if isOutput && m.inPlace.isSome then
    for piece in new.reverse do liftM (m := Running) (Running.write piece)
  else if isOutput then
    modify fun e => { e with output := { e.output with written := new ++ e.output.written } }
  else
    let _ ← liftM (m := Running) (Running.writeFile m.job.cwd name added.written.reverse.flatten)

/-- The next line of a file that is read line by line, if there is one. -/
def lineOfFile (name : Bytes) : Editing (Option Bytes) := do
  let m ← read
  let e ← get
  let left ← match e.readers.find? fun entry => entry.1 = name with
    | some (_, lines) => pure lines
    | none =>
      match ← liftM (m := Running) (Running.readFile m.job.cwd name) with
      | .ok bytes => pure (linesEndedBy m.mark bytes)
      | .error _ => pure []
  let others := e.readers.filter fun entry => entry.1 != name
  set { e with readers := (name, left.drop 1) :: others }
  return left.head?.map (·.body)

/-- Writes what is to be written at the end of a cycle. -/
def writeLater : Editing Unit := do
  let m ← read
  let pieces := (← get).later.reverse
  modify fun e => { e with later := [] }
  for piece in pieces do
    match piece with
    | .text bytes => write bytes
    | .line none => pure ()
    | .line (some body) => write (body ++ [m.mark])
    | .file name =>
      match ← liftM (m := Running) (Running.readFile m.job.cwd name) with
      | .ok bytes => write bytes
      | .error _ => finishLine

/-! ## Getting lines -/

/-- The states of ranges before the first line: those that begin before it are open. -/
def freshRanges (script : Script) : Array RangeState :=
  script.steps.map fun step =>
    match step.selector.first with
    | some (.line 0) => .opened
    | _ => .closed

/-- Puts what was written into the file that is changed, and a copy of the file as it was aside. -/
def finishFile : Editing Unit := do
  let m ← read
  let e ← get
  match m.inPlace with
  | none => return
  | some suffix =>
    unless suffix.isEmpty do
      let base := (e.fileName.reverse.takeWhile (· != '/')).reverse
      let dir := e.fileName.take (e.fileName.length - base.length)
      let copy := if suffix.contains '*' then suffix.flatMap fun c => if c = '*' then base else [c]
        else base ++ suffix
      let place := if copy.contains '/' then copy else dir ++ copy
      let _ ← liftM (m := Running) (Running.writeFile m.job.cwd place e.fileBytes)
    let _ ← liftM (m := Running)
      (Running.writeFile m.job.cwd e.fileName e.output.written.reverse.flatten)
    modify fun e => { e with output := {} }

/-- Begins a file. -/
def beginFile (name bytes : Bytes) : Editing Unit := do
  let m ← read
  if m.separate then
    if m.inPlace.isNone then finishLine
    modify fun e => { e with number := 0, ranges := freshRanges m.script }
  modify fun e => { e with fileName := name, fileBytes := bytes, rest := linesEndedBy m.mark bytes }

/-- Opens a file, or complains. A directory ends everything. -/
def openFile (name : Bytes) : Editing Unit := do
  let m ← read
  let found ← if name = ['-'] && m.inPlace.isNone then
      match (← liftM (m := Running) get).inputFault with
      | some e => pure (.error e)
      | none => pure (.ok (← liftM (m := Running) Running.takeInput))
    else liftM (m := Running) (Running.readFile m.job.cwd name)
  match found with
  | .ok bytes => beginFile name bytes
  | .error .isADirectory =>
    if m.inPlace.isSome then endWith 4 s!"couldn't edit {textOf name}: not a regular file"
    else endWith 4 s!"read error on {textOf name}: Is a directory"
  | .error e =>
    liftM (m := Running) (m.job.complain s!"can't read {textOf name}: {e.words}")
    modify fun e => { e with missing := true }

/-- Goes on to the next file that has lines, if the one at work has no more. -/
def seekLine : List Bytes → Editing Unit
  | [] => return
  | name :: others => do
    let e ← get
    if e.rest.isEmpty && e.ending.isNone then
      if !e.fileName.isEmpty then finishFile
      modify fun e => { e with files := others, fileName := [] }
      openFile name
      seekLine others

/-- Whether the line is the last one. -/
def isLast : Editing Bool := do
  unless (← read).separate do seekLine (← get).files
  return (← get).rest.isEmpty

/-- Takes the next line, after all that is to be written before; none if there is none. -/
def takeLine : Editing (Option Bytes) := do
  writeLater
  seekLine (← get).files
  let e ← get
  match e.rest with
  | [] => return none
  | line :: rest =>
    set { e with rest, number := e.number + 1, ended := line.ended, replaced := false }
    return if e.ending.isSome then none else some line.body

/-! ## Meeting addresses -/

/-- The pattern asked for, which is the one used last if none is given. -/
def patternOf (p : Option Pattern) : Editing (Option Pattern) := do
  match p <|> (← get).lastPattern with
  | some p =>
    modify fun e => { e with lastPattern := some p }
    return some p
  | none =>
    endWith 1 s!"{(← read).script.ending.shown}: no previous regular expression"
    return none

/-- Whether an address means the line. -/
def meets : Address → Editing Bool
  | .line n => return (← get).number == n
  | .every first step => do
    let n := (← get).number
    return decide (first ≤ n) && (n - first) % step == 0
  | .last => isLast
  | .fitting p => do
    match ← patternOf p with
    | some p => return p.fitsIn (← get).line
    | none => return false

/-- Keeps the state of a range. -/
def setRange (i : Nat) (state : RangeState) : Editing Unit :=
  modify fun e => { e with ranges := e.ranges.setIfInBounds i state }

/-- Whether a range that begins with a line goes on after it, and up to where. -/
def rangeFrom (number : Nat) : RangeEnd → RangeState
  | .address (.line n) => if n ≤ number then .closed else .upTo n
  | .address _ => .opened
  | .more 0 => .closed
  | .more n => .upTo (number + n)
  | .multiple 0 => .closed
  | .multiple n => .upTo ((number / n + 1) * n)

/-- Whether the lines of a range include the line. -/
def meetsRange (i : Nat) (first : Address) (last : RangeEnd) : Editing Bool := do
  let number := (← get).number
  match (← get).ranges.getD i .closed with
  | .closed =>
    if ← meets first then
      setRange i (rangeFrom number last)
      return true
    else return false
  | .upTo n =>
    if n ≤ number then setRange i .closed
    match last with
    | .address _ => return decide (number ≤ n)
    | _ => return true
  | .opened =>
    match last with
    | .address a =>
      if ← meets a then setRange i .closed
      return true
    | _ => return true

/-- Whether a step is meant for the line. -/
def selects (i : Nat) (s : Selector) : Editing Bool := do
  match s.first, s.last with
  | none, _ => return !s.others
  | some a, none => return (← meets a) != s.others
  | some first, some last => return (← meetsRange i first last) != s.others

/-! ## Replacing -/

/-- Bytes with their letters changed: the first one, and the others. -/
def changeLetters (first others : LetterCase) : Bytes → Bytes
  | [] => []
  | c :: rest => first.apply c :: rest.map others.apply

/-- What stands in the place of a fit. A change of the first letter that finds no letter in its own
piece is left to the next piece. -/
def replacementFor (line : Bytes) (fit : Match) (pieces : List ReplacementPiece) : Bytes :=
  let step := fun (state : List Bytes × Option LetterCase) (piece : ReplacementPiece) =>
    let (done, waiting) := state
    let first := piece.first.or waiting
    let text := changeLetters (first.getD piece.others) piece.others piece.text
    let first := if piece.text.isEmpty then first else none
    let (start, stop) := match piece.group with
      | none => (0, 0)
      | some 0 => (fit.start, fit.stop)
      | some n =>
        match fit.groups.find? fun g => g.1 == n with
        | some (_, start, stop) => (start, stop)
        | none => (0, 0)
    let found := changeLetters (first.getD piece.others) piece.others ((line.drop start).take (stop - start))
    let waiting := if piece.group.isSome && start = stop && piece.first.isSome then first else none
    (found :: text :: done, waiting)
  (pieces.foldl step ([], none)).1.reverse.flatten

/-- The line with fits replaced, and whether one was, in at most so many steps; `count` fits were
found up to the place, `done` holds what was made of the line up to there, last first, and `last` is
where the fit before ended. -/
def replaceFrom (p : Pattern) (s : Substitution) (wantGroups : Bool) (line : Bytes) :
    Nat → Nat → Nat → Option Nat → List Bytes → Bool → List Bytes × Bool
  | 0, _, place, _, done, replaced => (line.drop place :: done, replaced)
  | steps + 1, count, place, last, done, replaced =>
    match p.find? wantGroups line place with
    | none => (line.drop place :: done, replaced)
    | some fit =>
      let before := (line.drop place).take (fit.start - place)
      if fit.stop = fit.start && last = some fit.start then
        let passed := (line.drop place).take (fit.start + 1 - place)
        if line.length ≤ fit.start then (line.drop place :: done, replaced)
        else replaceFrom p s wantGroups line steps count (fit.start + 1) none (passed :: done) replaced
      else
        let count := count + 1
        let hit := decide (count = s.number) || (s.everywhere && decide (s.number ≤ count))
        let made := if hit then replacementFor line fit s.replacement
          else (line.drop fit.start).take (fit.stop - fit.start)
        let done := made :: before :: done
        if hit && !s.everywhere then (line.drop fit.stop :: done, true)
        else if line.length ≤ fit.stop && fit.stop = fit.start then (done, replaced || hit)
        else replaceFrom p s wantGroups line steps count fit.stop (some fit.stop) done (replaced || hit)

/-- Runs bytes as a script of the system and gets what it writes. -/
def outputOf (script : Bytes) : Editing Bytes := do
  let m ← read
  let (_, bytes) ← liftM (m := Running) (Running.captured (m.runScript script))
  return bytes

/-- Bytes without the mark at their end. -/
def dropMark (mark : Char) (bytes : Bytes) : Bytes :=
  if bytes.getLast? = some mark then bytes.dropLast else bytes

/-- Runs the line; what this writes becomes the line. -/
def executeLine : Editing Unit := do
  let bytes ← outputOf (← get).line
  let mark := (← read).mark
  modify fun e => { e with line := dropMark mark bytes }

/-- Replaces fits. -/
def substitute (s : Substitution) : Editing Unit := do
  match ← patternOf s.pattern with
  | none => return
  | some p =>
    let line := (← get).line
    let wantGroups := s.replacement.any fun piece => decide (0 < piece.group.getD 0)
    let (pieces, replaced) := replaceFrom p s wantGroups line (2 * line.length + 2) 0 0 none [] false
    if replaced then
      modify fun e => { e with line := pieces.reverse.flatten, replaced := true }
      if s.printsBefore then writeLine (← get).line
      if s.executes then executeLine
      if s.prints then writeLine (← get).line
      match s.file with
      | some name => writeLineTo name (← get).line
      | none => return

/-! ## Commands -/

/-- The bytes of a line so that all of them can be seen. -/
def seen (line : Bytes) : List Bytes :=
  line.map fun c =>
    match c with
    | '\\' => ['\\', '\\']
    | '\x07' => ['\\', 'a']
    | '\x08' => ['\\', 'b']
    | '\x0c' => ['\\', 'f']
    | '\n' => ['\\', 'n']
    | '\r' => ['\\', 'r']
    | '\t' => ['\\', 't']
    | '\x0b' => ['\\', 'v']
    | c => if isPrintByte c then [c] else '\\' :: padZeros 3 (octalText c.toNat)

/-- Pieces in lines of a width, each line but the last one with a backslash at its end. -/
def brokenAt (width : Nat) (mark : Char) (pieces : List Bytes) : Bytes :=
  let step := fun (state : List Bytes × Nat) (piece : Bytes) =>
    let (done, column) := state
    if width > 0 && column + piece.length > width - 1 then
      (piece :: ['\\', mark] :: done, piece.length)
    else (piece :: done, column + piece.length)
  (pieces.foldl step ([], 0)).1.reverse.flatten ++ ['$', mark]

/-- What follows a command. -/
inductive After where
  /-- The step of a place. -/
  | goTo (place : Nat)
  /-- The end of the cycle, the line written if lines are. -/
  | endCycle
  /-- The end of the cycle without the line. -/
  | dropLine
  /-- The script once more, with the line as it is. -/
  | again

/-- The first line of a line that may have several. -/
def firstLine (mark : Char) (line : Bytes) : Bytes := line.takeWhile (· != mark)

/-- Runs a command that gets lines or ends the cycle. -/
def performFlow (i : Nat) (edit : Edit) : Editing After := do
  let m ← read
  let on := After.goTo (i + 1)
  match edit with
  | .change text =>
    if (← get).ranges.getD i .closed = .closed then writeText text
    return .dropLine
  | .jump target none => return .goTo target
  | .jump target (some wanted) =>
    let replaced := (← get).replaced
    modify fun e => { e with replaced := false }
    return if replaced = wanted then .goTo target else on
  | .deleteFirst =>
    let line := (← get).line
    if line.contains m.mark then
      modify fun e => { e with line := (line.dropWhile (· != m.mark)).drop 1 }
      return .again
    else return .dropLine
  | .next =>
    if ← isLast then return .endCycle
    else
      if m.prints then writeLine (← get).line
      match ← takeLine with
      | some line =>
        modify fun e => { e with line }
        return on
      | none => return .dropLine
  | .addNext =>
    if ← isLast then return .endCycle
    else
      let line := (← get).line
      match ← takeLine with
      | some more =>
        modify fun e => { e with line := line ++ m.mark :: more }
        return on
      | none => return .endCycle
  | .quit print status =>
    if print then
      if m.prints then writeLine (← get).line
      finishLine
      writeLater
    modify fun e => { e with ending := some status }
    return .dropLine
  | _ => return .dropLine

/-- Runs a command at a place. -/
def perform (i : Nat) (edit : Edit) : Editing After := do
  let m ← read
  let e ← get
  let on := After.goTo (i + 1)
  let later (piece : Later) : Editing After := do
    modify fun e => { e with later := piece :: e.later }
    return on
  let become (e : Editor) : Editing After := do
    set e
    return on
  let doing (action : Editing Unit) : Editing After := do
    action
    return on
  match edit with
  | .block _ => return on
  | .nothing => return on
  | .append text => later (.text text)
  | .readFile name => later (.file name)
  | .readLine name => later (.line (← lineOfFile name))
  | .insert text => doing (writeText text)
  | .print => doing (writeLine e.line)
  | .printFirst =>
    if e.line.contains m.mark then doing (write (firstLine m.mark e.line ++ [m.mark]))
    else doing (writeLine e.line)
  | .recall true => become { e with line := e.line ++ m.mark :: e.kept, ended := e.keptEnded }
  | .recall false => become { e with line := e.kept, ended := e.keptEnded }
  | .keep true => become { e with kept := e.kept ++ m.mark :: e.line, keptEnded := e.ended }
  | .keep false => become { e with kept := e.line, keptEnded := e.ended }
  | .exchange => become { e with
      line := e.kept, ended := e.keptEnded, kept := e.line, keptEnded := e.ended }
  | .substitute s => doing (substitute s)
  | .translate pairs =>
    become { e with line := e.line.map fun c =>
      match pairs.reverse.find? fun pair => pair.1 == c with
      | some (_, d) => d
      | none => c }
  | .number => doing (write (digitsOf e.number ++ [m.mark]))
  | .name => doing (write (e.fileName ++ [m.mark]))
  | .list width => doing (write (brokenAt (width.getD m.width) m.mark (seen e.line)))
  | .writeFile name firstOnly =>
    doing (writeLineTo name (if firstOnly then firstLine m.mark e.line else e.line))
  | .execute [] => doing do
    executeLine
    modify fun e => { e with ended := true }
  | .execute command => doing do
    let bytes ← outputOf command
    write bytes
  | .empty => become { e with line := [] }
  | .obsolete letter => doing (endWith 4 s!"INTERNAL ERROR: Bad cmd {letter}")
  | edit => performFlow i edit

/-- Runs the steps of a script from a place on, in at most so many steps. -/
def cycle : Nat → Nat → Editing After
  | 0, _ => do
    liftM (m := Running) Running.neverEnd
    modify fun e => { e with ending := some 0 }
    return .dropLine
  | steps + 1, i => do
    match (← read).script.steps[i]? with
    | none => return .endCycle
    | some step =>
      let meant ← selects i step.selector
      if (← get).ending.isSome then return .dropLine
      else
        match step.edit, meant with
        | .block stop, false => cycle steps stop
        | _, false => cycle steps (i + 1)
        | edit, true =>
          let after ← perform i edit
          if (← get).ending.isSome then return .dropLine
          else
            match after with
            | .goTo place => cycle steps place
            | other => return other

/-- How many steps a script may take for one line. -/
def stepLimit : Nat := 400000

/-- Runs the script for the line, and then for the lines that are left, in at most so many cycles. -/
def editLines : Nat → Editing Unit
  | 0 => liftM (m := Running) Running.neverEnd
  | cycles + 1 => do
    let m ← read
    match ← cycle stepLimit 0 with
    | .again =>
      writeLater
      editLines cycles
    | after =>
      if (← get).ending.isNone then
        match after with
        | .endCycle => if m.prints then writeLine (← get).line
        | _ => pure ()
        match ← takeLine with
        | some line =>
          modify fun e => { e with line }
          editLines cycles
        | none => return

/-- How many cycles a script may take. -/
def cycleLimit : Nat := 2000000

/-- Edits all lines of files. -/
def editFiles : Editing Unit := do
  match ← takeLine with
  | some line =>
    modify fun e => { e with line }
    editLines cycleLimit
  | none => pure ()
  if !(← get).fileName.isEmpty && !(← get).aborted then finishFile

end FormatChain.Tools.Sed
