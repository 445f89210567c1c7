import FormatChain.Calendar
import FormatChain.Chain
import FormatChain.Clock
import FormatChain.Command.CheckConflicts
import FormatChain.Command.Format
import FormatChain.Command.RunCommand
import FormatChain.CommandLine.Process
import FormatChain.CommandLine.Reading
import FormatChain.CommandLine.Request
import FormatChain.CommandLine.Spec
import FormatChain.Conflict.Record
import FormatChain.Conflict.Scan
import FormatChain.Disk.Bare
import FormatChain.Disk.Basic
import FormatChain.Disk.Machine
import FormatChain.Document
import FormatChain.Fingerprint
import FormatChain.Formatter.Basic
import FormatChain.Formatter.Command
import FormatChain.Formatter.Launch
import FormatChain.Guard
import FormatChain.Json.Number
import FormatChain.Json.Reader
import FormatChain.Json.Shape
import FormatChain.Json.Token
import FormatChain.Json.Value
import FormatChain.Language
import FormatChain.Main
import FormatChain.Number.Binary64
import FormatChain.Number.Written
import FormatChain.OrderedMap
import FormatChain.Path
import FormatChain.Process.Bytes
import FormatChain.Process.Escape
import FormatChain.Process.Formatted
import FormatChain.Process.Numeral
import FormatChain.Process.Options
import FormatChain.Process.Outcome
import FormatChain.Process.Programs
import FormatChain.Process.World
import FormatChain.Proofs.Chain.Malformed
import FormatChain.Proofs.Chain.Resolving
import FormatChain.Proofs.Command.Agreement
import FormatChain.Proofs.Command.Capturing
import FormatChain.Proofs.Command.Folding
import FormatChain.Proofs.Command.Input
import FormatChain.Proofs.Command.Offering
import FormatChain.Proofs.Command.Preparing
import FormatChain.Proofs.Command.Reporting
import FormatChain.Proofs.Command.Straying
import FormatChain.Proofs.Command.Verbosity
import FormatChain.Proofs.Command.Watching
import FormatChain.Proofs.Conflict.History
import FormatChain.Proofs.Conflict.Rescanning
import FormatChain.Proofs.Conflict.Scanning
import FormatChain.Proofs.Conflict.Unnoticed
import FormatChain.Proofs.Disk.Storing
import FormatChain.Proofs.Document.History
import FormatChain.Proofs.Guard.Permits
import FormatChain.Proofs.Json.Naming
import FormatChain.Proofs.Language.Detecting
import FormatChain.Proofs.OrderedMap
import FormatChain.Proofs.Path.Around
import FormatChain.Proofs.Path.Leading
import FormatChain.Proofs.Run.Agreement
import FormatChain.Proofs.Run.Asking
import FormatChain.Proofs.Run.Atomic
import FormatChain.Proofs.Run.Cancelling
import FormatChain.Proofs.Run.Editor
import FormatChain.Proofs.Run.Folding
import FormatChain.Proofs.Run.Hearing
import FormatChain.Proofs.Run.InStep
import FormatChain.Proofs.Run.Keeping
import FormatChain.Proofs.Run.Lockstep
import FormatChain.Proofs.Run.Looking
import FormatChain.Proofs.Run.Moves
import FormatChain.Proofs.Run.Nesting
import FormatChain.Proofs.Run.Parts
import FormatChain.Proofs.Run.Passing
import FormatChain.Proofs.Run.Pausing
import FormatChain.Proofs.Run.Repeating
import FormatChain.Proofs.Run.Reports
import FormatChain.Proofs.Run.Restoration
import FormatChain.Proofs.Run.Stages
import FormatChain.Proofs.Run.Straying
import FormatChain.Proofs.Run.Withholding
import FormatChain.Proofs.Session.Actions
import FormatChain.Proofs.Session.Files
import FormatChain.Proofs.Session.Guards
import FormatChain.Proofs.Session.Lockstep
import FormatChain.Proofs.Session.Notifications
import FormatChain.Proofs.Session.Verbosity
import FormatChain.Proofs.Settings.Bracketed
import FormatChain.Proofs.Settings.Changing
import FormatChain.Proofs.Settings.Differing
import FormatChain.Proofs.Settings.Effective
import FormatChain.Proofs.Settings.OverrideKeys
import FormatChain.Proofs.Settings.Parsing
import FormatChain.Proofs.Settings.Precedence
import FormatChain.Proofs.Settings.Qualified
import FormatChain.Proofs.Settings.Readings
import FormatChain.Proofs.Settings.Rewriting
import FormatChain.Proofs.Settings.Writing
import FormatChain.Proofs.Text.Lowercase
import FormatChain.Proofs.Text.Trimming
import FormatChain.Proofs.Text.Utf8
import FormatChain.Proofs.Workspace.Climbing
import FormatChain.Proofs.Workspace.Discovering
import FormatChain.Proofs.Workspace.Distinguishing
import FormatChain.Proofs.Workspace.Faults
import FormatChain.Proofs.Workspace.Loading
import FormatChain.Regex.Basic
import FormatChain.Regex.Ordered
import FormatChain.Regex.OrderedReading
import FormatChain.Regex.Reading
import FormatChain.Regex.Search
import FormatChain.Rehearsal.Script
import FormatChain.Run.Activation
import FormatChain.Run.Executor
import FormatChain.Run.Host
import FormatChain.Run.Report
import FormatChain.Session.Application
import FormatChain.Session.Basic
import FormatChain.Session.Console
import FormatChain.Session.Event
import FormatChain.Session.Files
import FormatChain.Settings.Keys
import FormatChain.Settings.Layer
import FormatChain.Settings.Layered
import FormatChain.Settings.Warned
import FormatChain.Shell.Arithmetic
import FormatChain.Shell.Braces
import FormatChain.Shell.Builtin.Commands
import FormatChain.Shell.Builtin.Doing
import FormatChain.Shell.Builtin.Naming
import FormatChain.Shell.Builtin.Places
import FormatChain.Shell.Builtin.Signals
import FormatChain.Shell.Builtin.Texts
import FormatChain.Shell.Builtin.Values
import FormatChain.Shell.Declared
import FormatChain.Shell.Evaluation.Commands
import FormatChain.Shell.Evaluation.Engine
import FormatChain.Shell.Evaluation.Programs
import FormatChain.Shell.Evaluation.Simple
import FormatChain.Shell.Expansion
import FormatChain.Shell.Invocation
import FormatChain.Shell.Reading.Commands
import FormatChain.Shell.Reading.Reader
import FormatChain.Shell.Reading.Tokens
import FormatChain.Shell.Reading.Words
import FormatChain.Shell.Redirection
import FormatChain.Shell.State
import FormatChain.Shell.Syntax
import FormatChain.Shell.Wildcard
import FormatChain.SystemError
import FormatChain.Text.Characters
import FormatChain.Text.Lowercase
import FormatChain.Text.Quoted
import FormatChain.Text.Search
import FormatChain.Text.Utf8
import FormatChain.Tools.ArgumentRows
import FormatChain.Tools.Awk.Command
import FormatChain.Tools.Awk.Machine
import FormatChain.Tools.Awk.Reading
import FormatChain.Tools.Awk.State
import FormatChain.Tools.Awk.Syntax
import FormatChain.Tools.Awk.Token
import FormatChain.Tools.Awk.Value
import FormatChain.Tools.Characters
import FormatChain.Tools.Comparing
import FormatChain.Tools.Conditions
import FormatChain.Tools.Copying
import FormatChain.Tools.Digest
import FormatChain.Tools.Dump
import FormatChain.Tools.Ends
import FormatChain.Tools.Fields
import FormatChain.Tools.Files
import FormatChain.Tools.Finding
import FormatChain.Tools.Grep.Command
import FormatChain.Tools.Grep.Finder
import FormatChain.Tools.HumanNumbers
import FormatChain.Tools.Joining
import FormatChain.Tools.Lengths
import FormatChain.Tools.Numbering
import FormatChain.Tools.Paragraphs
import FormatChain.Tools.Precedence
import FormatChain.Tools.Progression
import FormatChain.Tools.Repeats
import FormatChain.Tools.Sed.Command
import FormatChain.Tools.Sed.Editor
import FormatChain.Tools.Sed.Reading
import FormatChain.Tools.Sed.Script
import FormatChain.Tools.Sort.Command
import FormatChain.Tools.Sort.Key
import FormatChain.Tools.Starting
import FormatChain.Tools.Sums
import FormatChain.Tools.Telling
import FormatChain.Tools.Writing
import FormatChain.Workspace.Load
