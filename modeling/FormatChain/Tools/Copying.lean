import FormatChain.Process.Numeral
import FormatChain.Process.Options

/-!
# Copying bytes

Bytes are copied as they are, to several places at once, or in blocks with conversions.

Commands that write what comes in, or what is in files, as a whole.

* `cat` : as it is, or so that all bytes can be seen.
* `rev` : with the bytes of each line the other way round.
* `tee` : into files as well.
* `BlockOrder`, `BlockOrder.adding` : what is wanted, word by word.
* `BlockOrder.changed` : the bytes of blocks after all changes.
* `dd` : the command.
-/

namespace FormatChain.Tools

open FormatChain.Process

/-- How lines are shown. -/
structure LineMarks where
  /-- Whether lines are numbered. -/
  numbers : Bool
  /-- Whether lines with something in them are numbered. -/
  fullNumbers : Bool
  /-- Whether empty lines are shown once. -/
  squeeze : Bool
  /-- Whether line ends are shown. -/
  ends : Bool
  /-- Whether tabs are shown. -/
  tabs : Bool
  /-- Whether other bytes are shown that cannot be printed. -/
  others : Bool

/-- A byte as it is shown. -/
def LineMarks.byte (m : LineMarks) (c : Char) : Bytes :=
  let plain (n : Nat) : Bytes :=
    if n < 32 then ['^', Char.ofNat (n + 64)] else if n = 127 then ['^', '?'] else [Char.ofNat n]
  if c = '\t' then if m.tabs then ['^', 'I'] else [c]
  else if !m.others then [c]
  else if c.toNat < 128 then plain c.toNat
  else ['M', '-'] ++ plain (c.toNat - 128)

/-- Lines as they are shown, given the number of the last line and whether an empty one stood
before. -/
def LineMarks.shown (m : LineMarks) (n : Nat) (empty : Bool) (done : List Bytes) :
    List Line → List Bytes × Nat × Bool
  | [] => (done, n, empty)
  | line :: rest =>
    let isEmpty := line.body.isEmpty && line.ended
    if m.squeeze && empty && isEmpty then LineMarks.shown m n true done rest
    else
      let counted := if m.fullNumbers then !isEmpty else m.numbers
      let n := if counted then n + 1 else n
      let shown :=
        (if counted then padStart 6 (digitsOf n) ++ ['\t'] else [])
          ++ (if m.tabs || m.others then line.body.flatMap m.byte else line.body)
          ++ (if line.ended then (if m.ends then ['$', '\n'] else ['\n']) else [])
      LineMarks.shown m n isEmpty (shown :: done) rest

/-- Writes what comes in and what is in files. -/
def cat : Program := fun j =>
  let rules : OptionRules := {
    letters := "AbeEnstTuv"
    words := [("show-all", 'A'), ("number-nonblank", 'b'), ("show-ends", 'E'), ("number", 'n'),
      ("squeeze-blank", 's'), ("show-tabs", 'T'), ("show-nonprinting", 'v')] }
  j.withOptions 1 rules fun given files => do
    let marks : LineMarks := {
      numbers := has given 'n'
      fullNumbers := has given 'b'
      squeeze := has given 's'
      ends := has given 'E' || has given 'A' || has given 'e'
      tabs := has given 'T' || has given 'A' || has given 't'
      others := has given 'v' || has given 'A' || has given 'e' || has given 't' }
    let plain := given.all (·.letter == 'u')
    let mut well := true
    let mut n := 0
    let mut empty := false
    for file in if files.isEmpty then [['-']] else files do
      match ← j.readOperand file with
      | none => well := false
      | some bytes =>
        if plain then Running.write bytes
        else
          let (shown, last, wasEmpty) := marks.shown n empty [] (linesOf bytes)
          Running.write shown.reverse.flatten
          n := last
          empty := wasEmpty
    return statusOf well

/-- Writes lines with their bytes the other way round, up to one that has a byte of a longer
character. -/
def rev : Program := fun j =>
  j.withOptions 1 { letters := "" } fun _ files => do
    let mut well := true
    for file in if files.isEmpty then [['-']] else files do
      let name := if file = ['-'] then "stdin" else textOf file
      let found ← if file = ['-'] then do pure (.ok (← Running.takeInput))
        else Running.readFile j.cwd file
      match found with
      | .error e =>
        j.complain s!"cannot open {name}: {e.words}"
        well := false
      | .ok bytes =>
        let lines := linesOf bytes
        let plain := lines.takeWhile fun line => line.body.all (·.toNat < 128)
        Running.write (joinLines (plain.map fun line => { line with body := line.body.reverse }))
        if plain.length < lines.length then
          j.complain s!"{name}: Invalid or incomplete multibyte or wide character"
          well := false
    return statusOf well

/-- Writes what comes in, into files as well. -/
def tee : Program := fun j =>
  j.withOptions 1 { letters := "aip", words := [("append", 'a'), ("ignore-interrupts", 'i')] }
    fun given files => do
      let bytes ← Running.takeInput
      Running.write bytes
      let mut well := true
      for file in files do
        let before ← if has given 'a' then do
            pure ((← Running.readFile j.cwd file).toOption.getD [])
          else pure []
        match ← Running.writeFile j.cwd file (before ++ bytes) with
        | .ok () => pure ()
        | .error e =>
          j.complain s!"{nameShown file}: {e.words}"
          well := false
      return statusOf well

end FormatChain.Tools

/-!
## Copying blocks

Bytes are read in blocks, changed, and written.  What is wanted is said by words with a value each.
-/

namespace FormatChain.Tools

open FormatChain.Process

/-- What is wanted. -/
structure BlockOrder where
  /-- The file that is read. -/
  source : Option Bytes := none
  /-- The file that is written. -/
  target : Option Bytes := none
  /-- The bytes of a block that is read. -/
  inSize : Nat := 512
  /-- The bytes of a block that is written. -/
  outSize : Nat := 512
  /-- The bytes of a block for both, if it was given. -/
  size : Option Nat := none
  /-- The bytes of a record. -/
  recordSize : Nat := 0
  /-- How many blocks are read at most, and whether bytes are meant. -/
  count : Option (Nat × Bool) := none
  /-- How many blocks are passed over, and whether bytes are meant. -/
  skip : Nat × Bool := (0, false)
  /-- How many blocks of what is written are passed over, and whether bytes are meant. -/
  seek : Nat × Bool := (0, false)
  /-- The changes. -/
  changes : List String := []
  /-- What else was said about reading. -/
  inMarks : List String := []
  /-- What else was said about writing. -/
  outMarks : List String := []
  /-- What is told at the end. -/
  telling : String := ""

/-- What is wrong with a word. -/
inductive BlockFault where
  /-- The word is not known. -/
  | operand (word : Bytes)
  /-- The value is none of those that are known. -/
  | choice (what : String) (value : Bytes)
  /-- The value is no number. -/
  | number (value : Bytes) (beyond : Bool)

/-- The product of numbers with a cross between them. -/
def blockNumber (value : Bytes) : Except AmountFault Nat :=
  (splitAtByte 'x' value).foldlM
    (fun product part => do
      let n ← amountAt "bcEGkKMPTwYZB0" 0 greatestUnsigned
        (if part.getLast? = some 'B' && (part.dropLast.getLast?.all Char.isDigit) then part.dropLast else part)
      if greatestSigned < product * n.toNat then .error .beyond else return product * n.toNat) 1

/-- The words of a value, each of which has to be known. -/
def blockWords (what : String) (known : List String) (value : Bytes) : Except BlockFault (List String) :=
  (splitAtByte ',' value).mapM fun word =>
    if known.contains (textOf word) then .ok (textOf word) else .error (.choice what word)

/-- The changes that are known. -/
def knownChanges : List String :=
  ["ascii", "ebcdic", "ibm", "block", "unblock", "lcase", "ucase", "sparse", "swab", "sync", "noerror",
    "nocreat", "excl", "notrunc", "fdatasync", "fsync"]

/-- What can be said about reading and writing. -/
def knownMarks : List String :=
  ["append", "binary", "cio", "direct", "directory", "dsync", "noatime", "nocache", "noctty", "nofollow",
    "nolinks", "nonblock", "sync", "text", "fullblock", "count_bytes", "skip_bytes", "seek_bytes"]

/-- What is wanted after a word, or what is wrong with it. -/
def BlockOrder.adding (o : BlockOrder) (word : Bytes) : Except BlockFault BlockOrder := do
  let name := word.takeWhile (· ≠ '=')
  let value := word.drop (name.length + 1)
  if name.length = word.length then throw (.operand word)
  let number (least : Nat) : Except BlockFault Nat :=
    match blockNumber value with
    | .ok n => if n < least then .error (.number value false) else .ok n
    | .error .beyond => .error (.number value true)
    | .error _ => .error (.number value false)
  let bytes := value.contains 'B'
  match textOf name with
  | "if" => return { o with source := some value }
  | "of" => return { o with target := some value }
  | "conv" => return { o with changes := o.changes ++ (← blockWords "conversion" knownChanges value) }
  | "iflag" => return { o with inMarks := o.inMarks ++ (← blockWords "input flag" knownMarks value) }
  | "oflag" => return { o with outMarks := o.outMarks ++ (← blockWords "output flag" knownMarks value) }
  | "status" =>
    match textOf value with
    | "none" | "noxfer" | "progress" => return { o with telling := textOf value }
    | _ => throw (.choice "status level" value)
  | "ibs" => return { o with inSize := ← number 1 }
  | "obs" => return { o with outSize := ← number 1 }
  | "bs" => return { o with size := some (← number 1) }
  | "cbs" => return { o with recordSize := ← number 1 }
  | "skip" | "iseek" => return { o with skip := (← number 0, bytes) }
  | "seek" | "oseek" => return { o with seek := (← number 0, bytes) }
  | "count" => return { o with count := some (← number 0, bytes) }
  | _ => throw (.operand word)

/-! ### Changes -/

/-- The bytes with each two next to each other exchanged. -/
def pairsSwapped : Bytes → Bytes
  | a :: b :: rest => b :: a :: pairsSwapped rest
  | rest => rest

/-- Bytes in parts of a size, the last one as it is, in at most so many parts. -/
def partsOf (size : Nat) : Nat → Bytes → List Bytes
  | 0, _ => []
  | _, [] => []
  | parts + 1, bytes => bytes.take size :: partsOf size parts (bytes.drop size)

/-- A line as a record: filled with blanks, or cut. -/
def recordOfLine (size : Nat) (line : Bytes) : Bytes :=
  (line ++ List.replicate (size - line.length) ' ').take size

/-- A record as a line: without the blanks at its end. -/
def lineOfRecord (record : Bytes) : Bytes :=
  (record.reverse.dropWhile (· == ' ')).reverse ++ ['\n']

/-- The bytes of blocks after all changes. -/
def BlockOrder.changed (o : BlockOrder) (bytes : Bytes) : Bytes :=
  let has (word : String) : Bool := o.changes.contains word
  let blocks := partsOf o.inSize (bytes.length + 1) bytes
  let blank := if has "block" || has "unblock" then ' ' else '\x00'
  let blocks := if has "sync" then
      blocks.map fun block => block ++ List.replicate (o.inSize - block.length) blank
    else blocks
  let bytes := if has "swab" then pairsSwapped blocks.flatten else blocks.flatten
  let bytes := if has "ucase" then bytes.map Char.toUpper
    else if has "lcase" then bytes.map Char.toLower else bytes
  if o.recordSize = 0 then bytes
  else if has "block" then (linesOf bytes).flatMap fun line => recordOfLine o.recordSize line.body
  else if has "unblock" then (partsOf o.recordSize (bytes.length + 1) bytes).flatMap lineOfRecord
  else bytes

/-- What is said if two changes are wanted that do not go together. -/
def BlockOrder.conflict? (o : BlockOrder) : Option String :=
  let records := if o.recordSize = 0 then [] else [["block", "unblock"]]
  let groups := ["ascii", "ebcdic", "ibm"] :: records ++ [["lcase", "ucase"], ["excl", "nocreat"]]
  (groups.find? fun group => 1 < (group.filter o.changes.contains).length).map fun group =>
    match group with
    | [a, b] => s!"cannot combine {a} and {b}"
    | group => "cannot combine any two of \x7b" ++ ",".intercalate group ++ "\x7d"

/-- What is told at the end about blocks of a size. -/
def blocksShown (size : Nat) (count : Nat) : String :=
  s!"{count / size}+{if count % size = 0 then 0 else 1}"

/-- Puts bytes into a file, some bytes from its start on; what stands after them is kept if that is wanted. -/
def writeFrom (j : Job) (name : Bytes) (start : Nat) (keep : Bool) (bytes : Bytes) :
    Running (Except SystemError Unit) := do
  let before := ((← Running.readFile j.cwd name).toOption).getD []
  let head := before.take start ++ List.replicate (start - before.length) '\x00'
  let tail := if keep then before.drop (start + bytes.length) else []
  Running.writeFile j.cwd name (head ++ bytes ++ tail)

/-- Copies blocks of bytes. -/
def dd : Program := fun j => do
  let option := j.args.find? fun arg => arg.head? = some '-' && arg.length > 1 && arg ≠ "--".toList
  let words := j.args.filter (· ≠ "--".toList)
  match option.map fun arg => OptionRules.read { letters := "" } [arg] with
  | some (.error fault) => j.misused 1 fault
  | _ =>
    match words.foldlM BlockOrder.adding {} with
    | .error (.operand word) => j.misused 1 s!"unrecognized operand {quoted word}"
    | .error (.choice what value) => j.misused 1 s!"invalid {what}: {quoted value}"
    | .error (.number value beyond) =>
      let reason := if beyond then ": Value too large for defined data type" else ""
      j.fail 1 s!"invalid number: {quoted value}{reason}"
    | .ok o =>
      let o := match o.size with
        | some n => { o with inSize := n, outSize := n }
        | none => o
      match o.conflict? with
      | some text => j.fail 1 text
      | none => copy j o
where
  /-- Copies what is wanted. -/
  copy (j : Job) (o : BlockOrder) : Running ExitStatus := do
    let found ← match o.source with
      | some name => Running.readFile j.cwd name
      | none => do
        let bytes ← Running.takeInput
        pure (.ok bytes)
    let amount (n : Nat × Bool) (mark : String) (marks : List String) (size : Nat) : Nat :=
      if n.2 || marks.contains mark then n.1 else n.1 * size
    match found with
    | .error e => j.fail 1 s!"failed to open {quoted (o.source.getD [])}: {e.words}"
    | .ok bytes =>
      let start := amount o.seek "seek_bytes" o.outMarks o.outSize
      if o.target.isNone && 0 < start then
        j.complain "'standard output': cannot seek: Illegal seek"
        Running.complain "0+0 records in"
        Running.complain "0+0 records out"
        return .code 1
      let skipped := bytes.drop (amount o.skip "skip_bytes" o.inMarks o.inSize)
      let taken := match o.count with
        | some n => skipped.take (amount n "count_bytes" o.inMarks o.inSize)
        | none => skipped
      if o.source.isNone then
        modify fun w => { w with input := skipped.drop taken.length }
      let changed := o.changed taken
      let written ← match o.target with
        | some name => writeFrom j name start (o.changes.contains "notrunc") changed
        | none => do
          Running.write changed
          pure (.ok ())
      match written with
      | .error e => j.fail 1 s!"failed to open {quoted (o.target.getD [])}: {e.words}"
      | .ok () =>
        unless o.telling = "none" do
          Running.complain s!"{blocksShown o.inSize taken.length} records in"
          Running.complain s!"{blocksShown o.outSize changed.length} records out"
        return success

end FormatChain.Tools
