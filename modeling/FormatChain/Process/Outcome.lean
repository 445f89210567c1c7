import FormatChain.SystemError
import FormatChain.Text.Utf8

/-!
# How commands end

* `ExitStatus`, `ExitStatus.message` : how a command ended by itself or by a signal.
* `CommandFailure`, `CommandFailure.messages` : why a command did not format.
-/

namespace FormatChain

open FormatChain.Text

/-- How a command ended. -/
inductive ExitStatus where
  /-- It ended by itself with a number. -/
  | code (n : Nat)
  /-- A signal ended it. -/
  | signal (n : Nat)
  deriving Repr, DecidableEq

namespace ExitStatus

/-- Whether the command did what it was asked to. -/
def isSuccess : ExitStatus → Bool
  | .code 0 => true
  | _ => false

/-- The name of a signal. -/
def signalName (n : Nat) : String :=
  match n with
  | 1 => "SIGHUP"
  | 2 => "SIGINT"
  | 3 => "SIGQUIT"
  | 4 => "SIGILL"
  | 5 => "SIGTRAP"
  | 6 => "SIGABRT"
  | 7 => "SIGBUS"
  | 8 => "SIGFPE"
  | 9 => "SIGKILL"
  | 10 => "SIGUSR1"
  | 11 => "SIGSEGV"
  | 12 => "SIGUSR2"
  | 13 => "SIGPIPE"
  | 14 => "SIGALRM"
  | 15 => "SIGTERM"
  | 16 => "SIGSTKFLT"
  | 17 => "SIGCHLD"
  | 18 => "SIGCONT"
  | 19 => "SIGSTOP"
  | 20 => "SIGTSTP"
  | 21 => "SIGTTIN"
  | 22 => "SIGTTOU"
  | 23 => "SIGURG"
  | 24 => "SIGXCPU"
  | 25 => "SIGXFSZ"
  | 26 => "SIGVTALRM"
  | 27 => "SIGPROF"
  | 28 => "SIGWINCH"
  | 29 => "SIGIO"
  | 30 => "SIGPWR"
  | 31 => "SIGSYS"
  | _ => ""

/-- How an ending is shown. -/
def message : ExitStatus → String
  | .code n => s!"exit status: {n}"
  | .signal n =>
    let name := signalName n
    if name.isEmpty then s!"signal: {n}" else s!"signal: {n} ({name})"

end ExitStatus

/-- Why a command did not format. -/
inductive CommandFailure where
  /-- The command cannot be started. -/
  | start (command : String) (cause : SystemError)
  /-- The command took too many milliseconds. -/
  | timedOut (limit : Nat)
  /-- The command ended otherwise than by doing what it was asked to, with these last words. -/
  | exited (status : ExitStatus) (words : String)
  /-- The command did not take all of the text. -/
  | textRefused (cause : SystemError)
  /-- What the command wrote is no text. -/
  | outputNotText (fault : Utf8Error)
  deriving Repr, DecidableEq

/-- The wording of a cause for the formatter of an id, the summary first. -/
def CommandFailure.messages (id : String) : CommandFailure → List String
  | .start command cause =>
    [s!"Error starting '{command}' for formatter '{id}'.", cause.message]
  | .timedOut limit => [s!"Formatter '{id}' timed out after {limit}ms."]
  | .exited status words => [s!"Formatter '{id}' exited with {status.message}." ++ words]
  | .textRefused cause => [s!"Error writing to stdin of formatter '{id}'.", cause.message]
  | .outputNotText fault => [s!"Formatter '{id}' output was not valid UTF-8.", fault.message]

end FormatChain
