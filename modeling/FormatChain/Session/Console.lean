import FormatChain.Session.Event
import FormatChain.Text.Search

/-!
# What the person sees

Events become text at two places: lines for the person and texts handed out, and the log.  Each line
of the log has the time of day before it, and the name of the part that writes where that is another
one than before.  Where a program reads the texts handed out, the lines for the person go to the
log's place.

* `Console` : how events are shown.
* `Console.render`, `Console.renderAll` : the texts that events become.
-/

namespace FormatChain

open FormatChain.Text

/-- How events are shown. -/
structure Console where
  /-- Whether a program reads the texts handed out. -/
  forPrograms : Bool := false
  /-- Whether messages have colours. -/
  coloured : Bool := true
  /-- The part of the program that wrote to the log last. -/
  context : String := Settings.programName

/-- The texts that events become. -/
structure Shown where
  /-- The lines for the person and the texts handed out. -/
  output : String := ""
  /-- The log. -/
  log : String := ""

namespace Console

/-- The label of a message, in colour or not. -/
def label (coloured : Bool) (kind : NotificationKind) : String :=
  let (colour, word) := match kind with
    | .info => ("14", "Info")
    | .warning => ("11", "Warning")
    | .error => ("9", "Error")
  (if coloured then s!"\x1b[38;5;{colour}m" else "\x1b[m") ++ s!"\x1b[1m{word}\x1b[0m"

/-- The lines of a text in the log. -/
def logLines (stamp text : String) : String :=
  if text.isEmpty then s!"[{stamp}]\n"
  else String.join ((lines text).map fun line => s!"[{stamp}] {line}\n")

/-- What a text becomes in the log. -/
def log (c : Console) (stamp text context : String) : Console × Shown :=
  let head := if context = c.context then "" else s!"[{stamp}] [{context}]\n"
  ({ c with context }, { log := head ++ logLines stamp text })

/-- What an event becomes at a time of day. -/
def render (c : Console) (stamp : String) : Event → Console × Shown
  | .logged text context => c.log stamp text context
  | .printed text =>
    (c, if c.forPrograms then { log := text ++ "\n" } else { output := text ++ "\n" })
  | .output text => (c, { output := text })
  | .notified kind text => c.log stamp (label c.coloured kind ++ " " ++ text) Settings.programName
  | _ => (c, {})

/-- What events become, all at the same time of day. -/
def renderAll (c : Console) (stamp : String) (events : List Event) : Shown :=
  (events.foldl
    (fun (c, shown) e =>
      let (c, more) := c.render stamp e
      (c, Shown.mk (shown.output ++ more.output) (shown.log ++ more.log)))
    (c, {})).2

end Console

end FormatChain
