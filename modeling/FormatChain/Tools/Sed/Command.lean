import FormatChain.Process.Options
import FormatChain.Tools.Sed.Editor
import FormatChain.Tools.Sed.Reading

/-!
# The stream editor

The script stands in options, or in the first other argument; the arguments after it are files.  What
the script makes of their lines is written, or put into the files.

* `sedRules`, `sedUsage` : the options, and what is said of them.
* `sed` : the command.
-/

namespace FormatChain.Tools.Sed

open FormatChain.Process

/-- The options of the command; those that are words only have letters that nobody writes. -/
def sedRules : OptionRules :=
  { letters := "bsnrzuEe:f:l:i::\x01\x02\x03\x04"
    words := [("binary", 'b'), ("regexp-extended", 'r'), ("debug", '\x01'), ("in-place", 'i'),
      ("expression", 'e'), ("file", 'f'), ("line-length", 'l'), ("null-data", 'z'),
      ("zero-terminated", 'z'), ("quiet", 'n'), ("posix", '\x01'), ("silent", 'n'), ("sandbox", '\x02'),
      ("separate", 's'), ("unbuffered", 'u'), ("version", '\x03'), ("help", '\x04'),
      ("follow-symlinks", '\x01')] }

/-- A page where more is told. -/
def page (place : String) : String := "<https:" ++ "//" ++ place ++ ">"

/-- How the command is used. -/
def sedUsage (name : String) : String :=
  s!"Usage: {name} [OPTION]... \x7bscript-only-if-no-other-script\x7d [input-file]...\n\n" ++
  "  -n, --quiet, --silent
                 suppress automatic printing of pattern space
      --debug
                 annotate program execution
  -e script, --expression=script
                 add the script to the commands to be executed
  -f script-file, --file=script-file
                 add the contents of script-file to the commands to be executed
  --follow-symlinks
                 follow symlinks when processing in place
  -i[SUFFIX], --in-place[=SUFFIX]
                 edit files in place (makes backup if SUFFIX supplied)
  -l N, --line-length=N
                 specify the desired line-wrap length for the \x60l' command
  --posix
                 disable all GNU extensions.
  -E, -r, --regexp-extended
                 use extended regular expressions in the script
                 (for portability use POSIX -E).
  -s, --separate
                 consider files as separate rather than as a single,
                 continuous long stream.
      --sandbox
                 operate in sandbox mode (disable e/r/w commands).
  -u, --unbuffered
                 load minimal amounts of data from the input files and flush
                 the output buffers more often
  -z, --null-data
                 separate lines by NUL characters
      --help     display this help and exit
      --version  output version information and exit

If no -e, --expression, -f, or --file option is given, then the first
non-option argument is taken as the sed script to interpret.  All
remaining arguments are names of input files; if no input files are
specified, then the standard input is read.

GNU sed home page: " ++ page "www.gnu.org/software/sed/" ++ ".
General help using GNU software: " ++ page "www.gnu.org/gethelp/" ++ ".\n"

/-- Complains about how the command is used. -/
def misuse (j : Job) : Running ExitStatus := do
  Running.put .complaints (bytesOf (sedUsage j.shownName))
  return .code 1

/-- The pieces of a script that options give, or the number of a complaint. -/
def piecesOf (j : Job) : List Given → Running (Except ExitStatus (List ScriptPiece))
  | [] => return .ok []
  | g :: rest => do
    if g.letter = 'e' then
      return (← piecesOf j rest).map (⟨none, g.value⟩ :: ·)
    else if g.letter = 'f' then
      let found ← if g.value = ['-'] then pure (.ok (← Running.takeInput))
        else Running.readFile j.cwd g.value
      match found with
      | .ok bytes => return (← piecesOf j rest).map (⟨some g.value, bytes⟩ :: ·)
      | .error .isADirectory =>
        return .error (← j.fail 4 s!"read error on {textOf g.value}: Is a directory")
      | .error e => return .error (← j.fail 4 s!"couldn't open file {textOf g.value}: {e.words}")
    else piecesOf j rest

/-- Makes the files empty that a script writes to; the number of a complaint if one cannot be written. -/
def clearFiles (j : Job) : List Bytes → Running (Option ExitStatus)
  | [] => return none
  | name :: rest => do
    if name = "/dev/stdout".toList || name = "/dev/stderr".toList then clearFiles j rest
    else
      match ← Running.writeFile j.cwd name [] with
      | .ok () => clearFiles j rest
      | .error e => return some (← j.fail 4 s!"couldn't open file {textOf name}: {e.words}")

/-- Edits the files or what comes in. -/
def editAll (m : Manner) (files : List Bytes) : Running ExitStatus := do
  let start : Editor := {
    ranges := freshRanges m.script
    files := if files.isEmpty then [['-']] else files }
  let ((), e) ← (editFiles.run m).run start
  if m.inPlace.isNone then Running.write e.output.written.reverse.flatten
  let own := e.ending.getD 0
  return .code (if e.aborted then own else if e.missing then 2 else own)

/-- Reads the script and edits. -/
def runSed (runScript : Job → Bytes → Running ExitStatus) (j : Job) (given : List Given)
    (pieces : List ScriptPiece) (files : List Bytes) : Running ExitStatus := do
  let mark := if has given 'z' then '\x00' else '\n'
  let rules : RegexRules := {
    extended := has given 'E' || has given 'r', strictRepeats := true }
  match Script.read { rules, mark, confined := has given '\x02' } pieces with
  | .error (.atPlace place message) => j.fail 1 s!"{place.shown}: {message}"
  | .error (.noLabel label) => j.fail 4 s!"can't find label for jump to \x60{textOf label}'"
  | .ok script =>
    let inPlace := if has given 'i' then some ((valueOf? given 'i').getD []) else none
    if inPlace.isSome && files.isEmpty then j.fail 4 "no input files"
    else
      match ← clearFiles j script.writtenNames with
      | some status => return status
      | none =>
        editAll {
          job := j
          runScript := runScript j
          script
          prints := !(has given 'n' || script.quiet)
          mark
          width := (valueOf? given 'l').elim 70 fun value => (readNat value).1
          separate := has given 's' || has given 'i'
          inPlace } files

/-- Edits lines, given how a script of the system is run. -/
def sed (runScript : Job → Bytes → Running ExitStatus) : Program := fun j => do
  match sedRules.read j.args with
  | .error fault =>
    j.complain fault
    misuse j
  | .ok (given, operands) =>
    if has given '\x04' then
      Running.write (bytesOf (sedUsage j.shownName ++ "E-mail bug reports to: <bug-sed@gnu.org>.\n"))
      return success
    else
      match ← piecesOf j given with
      | .error status => return status
      | .ok [] =>
        match operands with
        | [] => misuse j
        | script :: files => runSed runScript j given [⟨none, script⟩] files
      | .ok pieces => runSed runScript j given pieces operands

end FormatChain.Tools.Sed
