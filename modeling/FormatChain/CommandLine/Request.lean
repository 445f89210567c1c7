import FormatChain.Command.Format
import FormatChain.CommandLine.Reading
import FormatChain.Number.Binary64
import FormatChain.Text.Characters

/-!
# Requests

What a command line asks the program to do.

* `Request` : a task, with what holds for all tasks.
* `Request.ofArguments` : the request of a command line, or why it makes no sense.
-/

namespace FormatChain.CommandLine

open FormatChain.Command FormatChain.Text

/-- What the program is asked to do. -/
inductive Task where
  /-- To format a file. -/
  | format (file : String) (language : Option String) (range : Option TextRange)
  /-- To format the text that comes in. -/
  | formatInput (file : String) (language : Option String)
  /-- To run a command of the editor. -/
  | runCommand (id : String) (file : Option String)
  /-- To list the commands of the editor. -/
  | listCommands
  /-- To show how a language is formatted. -/
  | resolve (language : String)
  /-- To check for conflicts, once or again and again. -/
  | checkConflicts (watch : Bool)
  /-- To show the version. -/
  | showVersion
  /-- To show help. -/
  | showHelp (text : String)
  deriving Repr, DecidableEq

/-- What a command line asks for. -/
structure Request where
  /-- The task. -/
  task : Task
  /-- Whether remarks for debugging are to be made. -/
  verbose : Bool := false
  /-- The directory of the workspace, if it is given. -/
  workspace : Option String := none
  deriving Repr, DecidableEq

/-- Whether a program is to read what the task writes. -/
def Request.isForPrograms (r : Request) : Bool :=
  match r.task with
  | .formatInput _ _ => true
  | _ => false

/-! ## Ranges -/

/-- The number that digits, with a plus sign before them or not, stand for, if it fits into 64
bits. -/
def offset? (text : String) : Option Nat :=
  let digits := match text.toList with
    | '+' :: rest => rest
    | chars => chars
  if digits.isEmpty || !digits.all Char.isDigit then none
  else
    let n := digits.foldl (fun n c => 10 * n + (c.toNat - 48)) 0
    if n < 2 ^ 64 then some n else none

/-- The range of a text such as `1:5`, or why it is none. -/
def rangeOf (text : String) : Except String TextRange :=
  let malformed := s!"Invalid range '{text}'. Expected <start>:<end>."
  match cutAtFirst ':' text.toList with
  | none => .error malformed
  | some (start, stop) =>
    match offset? (trim (String.ofList start)), offset? (trim (String.ofList stop)) with
    | some start, some stop =>
      if stop < start then
        .error s!"Invalid range '{text}'. The start must not be after the end."
      else .ok ⟨start, stop⟩
    | _, _ => .error malformed

/-! ## Command lines -/

/-- The task of a subcommand with its arguments. -/
def taskOf (name : String) (r : Reading) : Except String Task :=
  let text id := (r.value? id).getD ""
  match name with
  | "fmt" => do
    let range ← match r.value? "range" with
      | none => pure none
      | some range => (rangeOf range).map some
    return .format (text "file") (r.value? "language") range
  | "stdin-fmt" => .ok (.formatInput (text "file") (r.value? "language"))
  | "run-command" => .ok (.runCommand (text "command-id") (r.value? "file"))
  | "commands" => .ok .listCommands
  | "resolve" => .ok (.resolve (text "language"))
  | "check-conflicts" => .ok (.checkConflicts (r.has "watch"))
  | _ => .ok .showVersion

/-- The help that the words after the subcommand for help ask for. -/
def helpFor (c : Subcommand) : List String → String
  | [] => Complaint.message c (.helpAsked true)
  | word :: rest =>
    match if c.inner.contains word then subcommand? word else none with
    | some inner => helpFor inner rest
    | none => Complaint.message c (.noSubcommand word [])

/-- Reads the words of a subcommand. -/
def readSubcommand (c : Subcommand) (words : List String) : Except String Reading :=
  let result := do
    match ← Reading.read c {} words with
    | .done r => r.finish c
    | .subcommand _ _ r => r.finish c
  result.mapError (Complaint.message c)

/-- The request of the words of a command line, or what is shown instead. -/
def readWords (words : List String) : Except String Request := do
  match ← (Reading.read program {} words).mapError (Complaint.message program) with
  | .done outer =>
    let _ ← outer.settle.mapError (Complaint.message program)
    throw (Complaint.message program .subcommandMissing)
  | .subcommand "help" rest _ => throw (helpFor program rest)
  | .subcommand name rest outer =>
    match subcommand? name with
    | none => throw (Complaint.message program (.noSubcommand name []))
    | some c =>
      let inner ← readSubcommand c rest
      let outer ← outer.settle.mapError (Complaint.message program)
      let task ← taskOf name inner
      return {
        task
        verbose := inner.has "verbose" || outer.has "verbose"
        workspace := inner.value? "workspace" <|> outer.value? "workspace" }

/-- The request of the arguments of the program, or what is shown instead. -/
def Request.ofArguments : List String → Except String Request
  | [] => .ok { task := .showHelp mainHelp }
  | ["help"] => .ok { task := .showHelp mainHelp }
  | ["--help"] => .ok { task := .showHelp mainHelp }
  | ["-v"] => .ok { task := .showVersion }
  | ["-V"] => .ok { task := .showVersion }
  | ["--version"] => .ok { task := .showVersion }
  | words => readWords words

end FormatChain.CommandLine
