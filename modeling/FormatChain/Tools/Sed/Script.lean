import FormatChain.Process.Escape
import FormatChain.Regex.Search

/-!
# Editing scripts

An editing script is a list of commands with addresses. Its texts have a notation of their own.

* `SetPlace` : where in a pattern a byte stands, inside a set or outside.
* `escapeAt?` : the byte that an escape stands for.
* `patternText`, `plainText`, `byteList` : texts with their escapes read.
* `readReplacement` : the pieces of a replacement.
* `Address`, `Selector` : the lines that a command is meant for.
* `Edit`, `Step` : the commands.
* `Script` : all steps in order.
-/

/-!
## Texts in editing scripts

Patterns, replacements and other texts of an editing script stand between marks or up to the end of a
line.  Escapes in them stand for bytes that are hard to write.  In a pattern such a byte means what
it means when it is written as it is; in a replacement it stands for itself.
-/

namespace FormatChain.Tools.Sed

open FormatChain.Process

/-! ### Sets in patterns -/

/-- Where in a pattern a byte stands. -/
inductive SetPlace where
  /-- Outside of sets. -/
  | outside
  /-- At the first place in a set. -/
  | opening
  /-- At the first place after the sign that turns a set around. -/
  | turned
  /-- In a set. -/
  | inside
  /-- At the mark that begins a name in a set. -/
  | mark (mark : Char)
  /-- In a name in a set. -/
  | name (mark : Char)
  /-- At the bracket that ends a name in a set. -/
  | closing
  deriving DecidableEq

/-- Where the next byte stands, given a byte and the one after it. -/
def SetPlace.next (place : SetPlace) (c : Char) (following : Option Char) : SetPlace :=
  let insideAfter : SetPlace :=
    match c, following with
    | '[', some m => if m = '.' || m = ':' || m = '=' then .mark m else .inside
    | _, _ => .inside
  match place with
  | .outside => if c = '[' then .opening else .outside
  | .opening => if c = '^' then .turned else insideAfter
  | .turned => insideAfter
  | .inside => if c = ']' then .outside else insideAfter
  | .mark m => .name m
  | .name m => if c = m && following = some ']' then .closing else .name m
  | .closing => .inside

/-! ### Escapes -/

/-- The byte whose number the digits at the start make up, and the rest. -/
def numberedByte? (digit? : Char → Option Nat) (base most : Nat) (text : Bytes) : Option (Char × Bytes) :=
  match readDigits digit? base most 0 0 text with
  | (_, 0, _) => none
  | (n, _, rest) => some (byteOfNat n, rest)

/-- The byte that the bytes after a backslash stand for, if they stand for one everywhere, and the rest,
or what is wrong with them. -/
def escapeAt? (text : Bytes) : Except String (Option (Char × Bytes)) :=
  let plain (c : Char) (rest : Bytes) : Except String (Option (Char × Bytes)) := .ok (some (c, rest))
  match text with
  | 'a' :: rest => plain '\x07' rest
  | 'f' :: rest => plain '\x0c' rest
  | 'n' :: rest => plain '\n' rest
  | 'r' :: rest => plain '\r' rest
  | 't' :: rest => plain '\t' rest
  | 'v' :: rest => plain '\x0b' rest
  | 'c' :: '\\' :: '\\' :: rest => plain '\x1c' rest
  | 'c' :: '\\' :: _ => .error "recursive escaping after \\c not allowed"
  | 'c' :: c :: rest => plain (byteOfNat (Nat.xor c.toUpper.toNat 64)) rest
  | 'd' :: rest => .ok (numberedByte? decimalDigit? 10 3 rest)
  | 'o' :: rest => .ok (numberedByte? octalDigit? 8 3 rest)
  | 'x' :: rest => .ok (numberedByte? hexDigit? 16 2 rest)
  | _ => .ok none

/-- A pattern with its escapes read, in at most so many steps. -/
def patternTextUpTo : Nat → SetPlace → Bytes → Except String Bytes
  | 0, _, _ => .ok []
  | _, _, [] => .ok []
  | steps + 1, place, '\\' :: rest => do
    let after := if place = .outside then place else .inside
    match ← escapeAt? rest with
    | some (byte, rest) => return byte :: (← patternTextUpTo steps after rest)
    | none =>
      match rest with
      | [] => return ['\\']
      | c :: others =>
        if place = .outside || c = '\\' then
          return '\\' :: c :: (← patternTextUpTo steps after others)
        else return '\\' :: (← patternTextUpTo steps after rest)
  | steps + 1, place, c :: rest => do
    return c :: (← patternTextUpTo steps (place.next c rest.head?) rest)

/-- A pattern with its escapes read, or what is wrong with one. -/
def patternText (text : Bytes) : Except String Bytes := patternTextUpTo (text.length + 1) .outside text

/-- A text with its escapes read, in at most so many steps; other bytes after a backslash stand for
themselves. -/
def plainTextUpTo : Nat → Bytes → Except String Bytes
  | 0, _ => .ok []
  | _, [] => .ok []
  | steps + 1, '\\' :: rest => do
    match ← escapeAt? rest with
    | some (byte, rest) => return byte :: (← plainTextUpTo steps rest)
    | none =>
      match rest with
      | [] => return ['\\']
      | c :: rest => return c :: (← plainTextUpTo steps rest)
  | steps + 1, c :: rest => do return c :: (← plainTextUpTo steps rest)

/-- A text with its escapes read, or what is wrong with one. -/
def plainText (text : Bytes) : Except String Bytes := plainTextUpTo (text.length + 1) text

/-! ### Replacements -/

/-- How letters change. -/
inductive LetterCase where
  /-- They are made capital ones. -/
  | upper
  /-- They are made small ones. -/
  | lower
  /-- They stay as they are. -/
  | keep
  deriving Repr, DecidableEq, Inhabited

/-- A letter in a size. -/
def LetterCase.apply (k : LetterCase) (c : Char) : Char :=
  match k with
  | .upper => c.toUpper
  | .lower => c.toLower
  | .keep => c

/-- A piece of what stands in the place of a fit: a text, and what a group fitted. -/
structure ReplacementPiece where
  /-- The text. -/
  text : Bytes := []
  /-- The group; none is all of the fit. -/
  group : Option Nat := none
  /-- How the first letter changes, if it does in a way of its own. -/
  first : Option LetterCase := none
  /-- How the other letters change. -/
  others : LetterCase := .keep
  deriving Repr, Inhabited

/-- A replacement that is being read. -/
structure ReplacementReader where
  /-- The pieces, the last one first. -/
  pieces : List ReplacementPiece := []
  /-- The text of the next piece, its last byte first. -/
  text : Bytes := []
  /-- How the first letter of the next piece changes. -/
  first : Option LetterCase := none
  /-- How the other letters change. -/
  others : LetterCase := .keep

/-- The reader after a piece; a change of one letter is over then. -/
def ReplacementReader.endPiece (r : ReplacementReader) (group : Option Nat) : ReplacementReader :=
  { pieces := ⟨r.text.reverse, group, r.first, r.others⟩ :: r.pieces, others := r.others }

/-- The reader after a byte that stands for itself. -/
def ReplacementReader.byte (r : ReplacementReader) (c : Char) : ReplacementReader :=
  { r with text := c :: r.text }

/-- Reads a replacement, in at most so many steps. -/
def readReplacementUpTo : Nat → ReplacementReader → Bytes → Except String (List ReplacementPiece)
  | 0, r, _ => .ok r.pieces.reverse
  | _, r, [] => .ok ((if r.text.isEmpty then r else r.endPiece none).pieces.reverse)
  | steps + 1, r, '&' :: rest => readReplacementUpTo steps (r.endPiece (some 0)) rest
  | _, r, ['\\'] => .ok ((r.byte '\\').endPiece none).pieces.reverse
  | steps + 1, r, '\\' :: c :: rest => do
    let go (r : ReplacementReader) (rest : Bytes) := readReplacementUpTo steps r rest
    if c.isDigit then go (r.endPiece (some (c.toNat - 48))) rest
    else
      match c with
      | 'U' => go { r.endPiece none with others := .upper } rest
      | 'L' => go { r.endPiece none with others := .lower } rest
      | 'E' => go { r.endPiece none with others := .keep } rest
      | 'u' => go { r.endPiece none with first := some .upper } rest
      | 'l' => go { r.endPiece none with first := some .lower } rest
      | _ =>
        match ← escapeAt? (c :: rest) with
        | some (byte, rest) => go (r.byte byte) rest
        | none => go (r.byte c) rest
  | steps + 1, r, c :: rest => readReplacementUpTo steps (r.byte c) rest

/-- The pieces of a replacement, or what is wrong with it. -/
def readReplacement (text : Bytes) : Except String (List ReplacementPiece) :=
  readReplacementUpTo (text.length + 1) {} text

end FormatChain.Tools.Sed

/-!
## Editing scripts

An editing script is a list of commands, each of which may say for which lines it is meant.  Blocks and
labels are resolved: a block says after which step it ends, and a jump to which step it leads.
-/

namespace FormatChain.Tools.Sed

open FormatChain.Process

/-- A line, or lines. -/
inductive Address where
  /-- The line of a number; no line has the number zero. -/
  | line (n : Nat)
  /-- Every so many lines from one on. -/
  | every (first step : Nat)
  /-- The last line. -/
  | last
  /-- The lines that a pattern fits, or the pattern used last. -/
  | fitting (p : Option Pattern)
  deriving Inhabited

/-- The end of a range of lines. -/
inductive RangeEnd where
  /-- A line. -/
  | address (a : Address)
  /-- So many lines after the first. -/
  | more (n : Nat)
  /-- The next line whose number is a multiple. -/
  | multiple (n : Nat)
  deriving Inhabited

/-- The lines that a command is meant for. -/
structure Selector where
  /-- The line, or the first one of a range. -/
  first : Option Address := none
  /-- The end of the range. -/
  last : Option RangeEnd := none
  /-- Whether it is meant for all other lines. -/
  others : Bool := false
  deriving Inhabited

/-- What is done to fits. -/
structure Substitution where
  /-- The pattern, or the one used last. -/
  pattern : Option Pattern
  /-- What stands in the place of a fit. -/
  replacement : List ReplacementPiece
  /-- Whether all fits from the first one on are replaced. -/
  everywhere : Bool := false
  /-- The number of the fit that is the first to be replaced. -/
  number : Nat := 1
  /-- Whether the line is run as a command, what it writes becoming the line. -/
  executes : Bool := false
  /-- Whether the line is written before it is run. -/
  printsBefore : Bool := false
  /-- Whether the line is written afterwards. -/
  prints : Bool := false
  /-- The file that the line is written to afterwards. -/
  file : Option Bytes := none
  deriving Inhabited

/-- A command. -/
inductive Edit where
  /-- Goes on after a step unless the lines are meant. -/
  | block (stop : Nat)
  /-- Nothing. -/
  | nothing
  /-- Writes a text at the end of the cycle. -/
  | append (text : Bytes)
  /-- Writes a text. -/
  | insert (text : Bytes)
  /-- Writes a text in the place of lines. -/
  | change (text : Bytes)
  /-- Goes to a place: always, or if something was replaced, or if nothing was. -/
  | jump (target : Nat) (replaced : Option Bool)
  /-- Ends the cycle without writing the line. -/
  | delete
  /-- Takes the first line away, and begins again with the others. -/
  | deleteFirst
  /-- Writes the line. -/
  | print
  /-- Writes the first line. -/
  | printFirst
  /-- Goes on with the next line. -/
  | next
  /-- Adds the next line. -/
  | addNext
  /-- Gets what was kept, added to the line or in its place. -/
  | recall (add : Bool)
  /-- Keeps the line, added to what was kept or in its place. -/
  | keep (add : Bool)
  /-- Changes places with what was kept. -/
  | exchange
  /-- Replaces fits. -/
  | substitute (s : Substitution)
  /-- Changes bytes. -/
  | translate (pairs : List (Char × Char))
  /-- Ends everything, the line written or not. -/
  | quit (print : Bool) (status : Nat)
  /-- Writes the number of the line. -/
  | number
  /-- Writes the name of the file. -/
  | name
  /-- Writes the line so that all bytes can be seen. -/
  | list (width : Option Nat)
  /-- Writes a file at the end of the cycle. -/
  | readFile (name : Bytes)
  /-- Writes the next line of a file at the end of the cycle. -/
  | readLine (name : Bytes)
  /-- Writes the line to a file, or its first line. -/
  | writeFile (name : Bytes) (firstOnly : Bool)
  /-- Runs a command and writes what it writes; without a command, the line is run, and what it writes
  becomes the line. -/
  | execute (command : Bytes)
  /-- Makes the line empty. -/
  | empty
  /-- Is known but not understood. -/
  | obsolete (letter : Char)
  deriving Inhabited

/-- A command with the lines that it is meant for. -/
structure Step where
  /-- The lines. -/
  selector : Selector
  /-- The command. -/
  edit : Edit
  deriving Inhabited

/-- Where something is wrong in a script. -/
inductive ScriptPlace where
  /-- After so many bytes of a piece given as an argument. -/
  | argument (number count : Nat)
  /-- In a line of a file. -/
  | file (name : Bytes) (line : Nat)
  deriving Inhabited

/-- A place as complaints show it. -/
def ScriptPlace.shown : ScriptPlace → String
  | .argument number count => s!"-e expression #{number}, char {count}"
  | .file name line => s!"file {textOf name} line {line}"

/-- A script. -/
structure Script where
  /-- The commands. -/
  steps : Array Step
  /-- Whether its first bytes say that lines are not written by themselves. -/
  quiet : Bool
  /-- The end of the script, where something is wrong that is found when it runs. -/
  ending : ScriptPlace
  deriving Inhabited

/-- The files that a script writes to. -/
def Script.writtenNames (script : Script) : List Bytes :=
  (script.steps.toList.filterMap fun step =>
    match step.edit with
    | .writeFile name _ => some name
    | .substitute s => s.file
    | _ => none).eraseDups

end FormatChain.Tools.Sed
