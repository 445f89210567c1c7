import FormatChain.Shell.Invocation
import FormatChain.Tools.ArgumentRows
import FormatChain.Tools.Awk.Command
import FormatChain.Tools.Characters
import FormatChain.Tools.Comparing
import FormatChain.Tools.Copying
import FormatChain.Tools.Dump
import FormatChain.Tools.Ends
import FormatChain.Tools.Fields
import FormatChain.Tools.Finding
import FormatChain.Tools.Grep.Command
import FormatChain.Tools.HumanNumbers
import FormatChain.Tools.Joining
import FormatChain.Tools.Lengths
import FormatChain.Tools.Numbering
import FormatChain.Tools.Paragraphs
import FormatChain.Tools.Precedence
import FormatChain.Tools.Progression
import FormatChain.Tools.Repeats
import FormatChain.Tools.Sed.Command
import FormatChain.Tools.Sort.Command
import FormatChain.Tools.Starting
import FormatChain.Tools.Sums
import FormatChain.Tools.Telling

/-!
# The programs of the system

A path is started as a program if a file is there that may be run: one of the programs that come with
the system, or a text that names the program for it in its first line.

* `programOf?` : the programs that come with the system, by name.
* `interpreter?` : the program that a text names.
* `starterUpTo`, `starter` : how the program at a path is started.
-/

namespace FormatChain.Process

open FormatChain.Shell FormatChain.Tools

/-- The programs that start no others. -/
def simpleProgram? (name : String) : Option Program :=
  match name with
  | "[" => some (condition true)
  | "arch" => some (saying "x86_64" { letters := "" })
  | "b2sum" => some b2sum
  | "base32" => some base32
  | "base64" => some base64
  | "basename" => some basename
  | "cat" => some cat
  | "chmod" => some chmod
  | "chown" => some succeed
  | "cksum" => some cksum
  | "cmp" => some cmp
  | "comm" => some comm
  | "cp" => some cp
  | "cut" => some cut
  | "dd" => some dd
  | "dirname" => some dirname
  | "echo" => some echo
  | "egrep" => some (oldGrep 'E')
  | "expand" => some expand
  | "expr" => some expr
  | "factor" => some factor
  | "false" => some fail
  | "fgrep" => some (oldGrep 'F')
  | "fmt" => some fmt
  | "fold" => some fold
  | "grep" => some grep
  | "groups" => some groups
  | "head" => some head
  | "hostname" => some hostname
  | "id" => some identity
  | "join" => some join
  | "link" => some link
  | "ln" => some ln
  | "ls" => some ls
  | "md5sum" => some (sumOf md5Kind)
  | "mkdir" => some mkdir
  | "mktemp" => some mktemp
  | "mv" => some mv
  | "nl" => some nl
  | "numfmt" => some HumanNumbers.numfmt
  | "nproc" => some nproc
  | "od" => some od
  | "paste" => some paste
  | "printenv" => some printenv
  | "printf" => some printf
  | "pwd" => some pwd
  | "readlink" => some readlink
  | "realpath" => some realpath
  | "rev" => some rev
  | "rm" => some rm
  | "rmdir" => some rmdir
  | "seq" => some seq
  | "sha1sum" => some (sumOf sha1Kind)
  | "sha224sum" => some (sumOf sha224Kind)
  | "sha256sum" => some (sumOf sha256Kind)
  | "sha384sum" => some (sumOf sha384Kind)
  | "sha512sum" => some (sumOf sha512Kind)
  | "sleep" => some sleep
  | "sort" => some sort
  | "stat" => some stat
  | "sum" => some sum
  | "sync" => some sync
  | "tac" => some tac
  | "tail" => some tail
  | "tee" => some tee
  | "test" => some (condition false)
  | "touch" => some touch
  | "tr" => some tr
  | "true" => some succeed
  | "truncate" => some truncate
  | "tsort" => some tsort
  | "tty" => some terminal
  | "uname" => some machineName
  | "unexpand" => some unexpand
  | "uniq" => some uniq
  | "unlink" => some unlink
  | "wc" => some wc
  | "which" => some which
  | "whoami" => some whoami
  | "yes" => some yes
  | _ => none

/-- Runs a script of the system in the circumstances of a command. -/
def runSystemScript (start : Starter) (j : Job) (script : Bytes) : Running ExitStatus := do
  match ← start scriptShell { j with name := "sh".toList, args := ["-c".toList, script] } with
  | .ok status => return status
  | .error _ => return .code 127

/-- The programs that come with the system. -/
def programOf? (start : Starter) (name : String) : Option Program :=
  match name with
  | "awk" | "mawk" => some (Awk.awk (runSystemScript start))
  | "bash" => some (richShellProgram start)
  | "dash" | "sh" => some (commonShellProgram start)
  | "env" => some (env start)
  | "find" => some (find start)
  | "nice" => some (nice start)
  | "nohup" => some (nohup start)
  | "sed" => some (Sed.sed (runSystemScript start))
  | "setsid" => some (setsid start)
  | "stdbuf" => some (stdbuf start)
  | "timeout" => some (timeout start)
  | "xargs" => some (xargs start)
  | name => simpleProgram? name

/-- The program that a text names in its first line, and an argument for it. -/
def interpreter? (bytes : Bytes) : Option (Bytes × Option Bytes) :=
  match bytes with
  | '#' :: '!' :: rest =>
    let isBlank (c : Char) : Bool := c = ' ' || c = '\t'
    let line := (rest.takeWhile (· ≠ '\n')).dropWhile isBlank
    let line := (line.reverse.dropWhile isBlank).reverse
    let name := line.takeWhile fun c => !isBlank c
    let argument := (line.drop name.length).dropWhile isBlank
    if name.isEmpty then none
    else some (name, if argument.isEmpty then none else some argument)
  | _ => none

/-- Starts the program at a path, where programs may start others up to so deep. -/
def starterUpTo : Nat → Starter
  | 0 => fun _ _ => return .error .notFound
  | depth + 1 => fun path j => do
    let inner : Starter := fun path j => starterUpTo depth path j
    let disk := (← get).disk
    match disk.find j.cwd (pathOf path) with
    | .error e => return .error e
    | .ok (.vacant _) => return .error .notFound
    | .ok (.directory _) => return .error .permissionDenied
    | .ok (.file place) =>
      if !disk.executable.any (·.same place) then return .error .permissionDenied
      else
        let known := if place.parent?.any fun dir => dir.same ⟨"/usr/bin"⟩ then
            place.fileName?.bind fun name => programOf? inner (String.ofList name)
          else none
        match known with
        | some program => return .ok (← program j)
        | none =>
          match (disk.openBytes Path.root place).map ofNumbers with
          | .error e => return .error e
          | .ok bytes =>
            match interpreter? bytes with
            | some (name, argument) =>
              inner name { j with name := name, args := argument.toList ++ path :: j.args }
            | none => return .error .noProgram

/-- How deep programs may start others. -/
def startDepth : Nat := 60

/-- Starts the program at a path. -/
def starter : Starter := starterUpTo startDepth

end FormatChain.Process
