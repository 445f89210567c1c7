import FormatChain.Conflict.Scan
import FormatChain.Path
import FormatChain.Run.Report

/-!
# Events

What happens in a session can be noticed from outside, formatters being asked among it.

* `FormatRequest` : the text to format, and where it comes from.
* `FormatOutput` : what became of it.
* `Event` : something that happened and that somebody outside can notice.
-/

/-! ## What formatters get and give -/

namespace FormatChain

/-- A text to format. -/
structure FormatRequest where
  /-- The path of the file. -/
  path : Path
  /-- The language of the file. -/
  language : String
  /-- The text. -/
  text : String
  deriving Repr, DecidableEq

/-- What became of a text. -/
inductive FormatOutput where
  /-- The text is formatted as it is. -/
  | unchanged
  /-- This is the formatted text. -/
  | text (text : String)
  /-- The file on disk was formatted. -/
  | fileUpdated
  deriving Repr, DecidableEq

end FormatChain

/-! ## Events -/

namespace FormatChain

/-- Something that happened. -/
inductive Event where
  /-- A line was written to the log, in the name of a part of the program. -/
  | logged (text : String) (context : String)
  /-- A line was written for the person. -/
  | printed (text : String)
  /-- A text was handed out as it is. -/
  | output (text : String)
  /-- The person got a message. -/
  | notified (kind : NotificationKind) (text : String)
  /-- A file was written. -/
  | wrote (path : Path) (text : String)
  /-- The program slept for so many milliseconds. -/
  | slept (millis : Nat)
  /-- A formatter was asked to format a text. -/
  | formatted (id : String) (request : FormatRequest)
  /-- Somebody else wrote a setting, or tried to. -/
  | settingWritten (result : Except Settings.WriteError Unit)
  /-- Somebody else announced that settings changed. -/
  | configurationChanged (report : Option Conflict.ScanReport)
  /-- Somebody else looked at the guard. -/
  | guardSeen (held : Bool)
  /-- Somebody else asked for a run. -/
  | nestedRun (report : RunReport)

end FormatChain
