import FormatChain.Json.Shape
import FormatChain.Path
import FormatChain.Text.Search

/-!
# Commands behind formatters

The settings name the command behind a formatter, and say how it is run.  A command is written as a
mapping, or as its five fields in order; the fields that may be left out have fixed values then.

* `FormatterCommand` : a command, and how it is run.
* `FormatterCommand.decode` : reading one.
* `FormatterCommand.argsFor` : what the command is told for a file.
-/

namespace FormatChain

open FormatChain.Json FormatChain.Text

/-- A command, and how it is run. -/
structure FormatterCommand where
  /-- The command. -/
  command : String
  /-- What it is told. -/
  args : List String := []
  /-- Whether it gets the text and writes the result. If not, it rewrites the file. -/
  takesText : Bool := true
  /-- The directory it works in, if not that of the file. -/
  cwd : Option String := none
  /-- The milliseconds it may take, if that is said. -/
  timeout : Option Nat := none
  deriving Repr, DecidableEq

namespace FormatterCommand

/-- The milliseconds that a command may take if nothing is said. -/
def defaultTimeout : Nat := 30000

/-- Reads a value that may be null. -/
def decodeOptional {α : Type} (decode : Decoder α) : Decoder (Option α)
  | .null => .ok none
  | value => (decode value).map some

/-- Reads the text of a path. -/
def decodePath : Decoder String
  | .string text => .ok text
  | found => .error (.wrongType found "path string")

/-- The fields met so far in a mapping. -/
structure Partial where
  /-- The command. -/
  command : Option String := none
  /-- The rest; its command does not count. -/
  others : FormatterCommand := { command := "" }

/-- Reads one field of a mapping. Fields that are not known do not count. -/
def decodeField (p : Partial) : String × Value → Except Mismatch Partial
  | ("command", value) => do return { p with command := some (← decodeString value) }
  | ("args", value) => do
    return { p with others := { p.others with args := ← decodeStrings value } }
  | ("stdin", value) => do
    return { p with others := { p.others with takesText := ← decodeBool value } }
  | ("cwd", value) => do
    return { p with others := { p.others with cwd := ← decodeOptional decodePath value } }
  | ("timeout", value) => do
    return { p with
      others := { p.others with timeout := ← decodeOptional (decodeWord 64) value } }
  | _ => .ok p

/-- What a command is expected to be. -/
def expectedShape : String := "struct FormatterCommandConfig"

/-- What a command is expected to be, given as a sequence. -/
def expectedSequence : String := expectedShape ++ " with 5 elements"

/-- Reads the five fields in order. What the command is told and whether it gets the text may be
left out at the end, but not what follows. -/
def decodeSequence (items : List Value) : Except Mismatch FormatterCommand :=
  match items with
  | [] => .error (.wrongLength 0 expectedSequence)
  | [command] => do
    let _ ← decodeString command
    throw (.wrongLength 3 expectedSequence)
  | [command, args] => do
    let _ ← decodeString command
    let _ ← decodeStrings args
    throw (.wrongLength 3 expectedSequence)
  | [command, args, takesText] => do
    let _ ← decodeString command
    let _ ← decodeStrings args
    let _ ← decodeBool takesText
    throw (.wrongLength 3 expectedSequence)
  | [command, args, takesText, cwd] => do
    let _ ← decodeString command
    let _ ← decodeStrings args
    let _ ← decodeBool takesText
    let _ ← decodeOptional decodePath cwd
    throw (.wrongLength 4 expectedSequence)
  | command :: args :: takesText :: cwd :: timeout :: rest => do
    let command ← decodeString command
    let args ← decodeStrings args
    let takesText ← decodeBool takesText
    let cwd ← decodeOptional decodePath cwd
    let timeout ← decodeOptional (decodeWord 64) timeout
    if rest.isEmpty then return { command, args, takesText, cwd, timeout }
    else throw (.wrongLength items.length "fewer elements in array")

/-- Reads a command. -/
def decode : Decoder FormatterCommand
  | .object fields => do
    let p ← fields.foldlM decodeField {}
    match p.command with
    | some command => return { p.others with command }
    | none => throw (.missingField "command")
  | .array items => decodeSequence items
  | found => .error (.wrongType found expectedShape)

/-- What stands for the path of the file in what a command is told. -/
def filePlaceholder : String := "\x7b\x7bfile\x7d\x7d"

/-- What the command is told for a file. -/
def argsFor (c : FormatterCommand) (file : Path) : List String :=
  c.args.map fun arg => replaceAll arg filePlaceholder file.text

/-- The directory that the command is to work in for a file. -/
def directoryFor (c : FormatterCommand) (file : Path) : Option Path :=
  (c.cwd.map Path.mk) <|> file.parent?

end FormatterCommand

end FormatChain
