import FormatChain.Settings.Keys
import FormatChain.Text.Search

/-!
# What the command line may say

The subcommands and their options are data, from which the help is made.

The program has subcommands.  Each takes arguments by their place and options by their names; a few
options stand before a subcommand or after it.

* `Argument` : an argument or an option.
* `Subcommand` : a subcommand with its arguments.
* `program`, `subcommands` : those of the program.
* `Subcommand.usage` : the line that says how a subcommand is used.
* `Subcommand.helpText` : the help for a subcommand.
* `mainHelp` : the help for the program.
-/

namespace FormatChain.CommandLine

open FormatChain.Text

/-- What an argument is for. -/
inductive Purpose where
  /-- It has a value. -/
  | value
  /-- It is there or not. -/
  | flag
  /-- It asks for help. -/
  | help
  /-- It asks for the version. -/
  | version
  deriving Repr, DecidableEq

/-- An argument by its place, or an option by its name. -/
structure Argument where
  /-- What it is known by. -/
  id : String
  /-- The long name of an option, without dashes. -/
  long : Option String := none
  /-- The letter of an option. -/
  short : Option Char := none
  /-- What it is for. -/
  purpose : Purpose := .value
  /-- The name of its value. -/
  valueName : String := ""
  /-- Whether it must be there. -/
  required : Bool := false
  /-- Whether there may be any number of it. -/
  repeatable : Bool := false
  /-- What it means, in words. -/
  help : String := ""
  deriving Repr, DecidableEq

namespace Argument

/-- Whether it is known by its place. -/
def isPositional (a : Argument) : Bool := a.long.isNone

/-- How it is shown where it must be there or not. -/
def shownAs (a : Argument) (required : Bool) : String :=
  match a.long with
  | some long => if a.purpose = .value then s!"--{long} <{a.valueName}>" else s!"--{long}"
  | none =>
    let name := if required then s!"<{a.valueName}>" else s!"[{a.valueName}]"
    if a.repeatable then name ++ "..." else name

/-- How it is shown. -/
def shown (a : Argument) : String := a.shownAs a.required

end Argument

/-- A subcommand, or the program itself. -/
structure Subcommand where
  /-- How it is started. -/
  usageName : String
  /-- Its name. -/
  name : String
  /-- What it does, in a sentence. -/
  about : String
  /-- What it does, at length, if there is more to say. -/
  longAbout : Option String := none
  /-- Its arguments, in order. -/
  arguments : List Argument
  /-- The names of its own subcommands. -/
  inner : List String := []
  /-- A line that stands for all ways of using it. -/
  usageLine : Option String := none
  deriving Repr, DecidableEq

namespace Subcommand

/-- The arguments known by their place. -/
def positionals (c : Subcommand) : List Argument := c.arguments.filter Argument.isPositional

/-- The options. -/
def options (c : Subcommand) : List Argument := c.arguments.filter fun a => !a.isPositional

/-- The option of a long name. -/
def longOption? (c : Subcommand) (name : String) : Option Argument :=
  c.arguments.find? fun a => a.long == some name

/-- The option of a letter. -/
def shortOption? (c : Subcommand) (letter : Char) : Option Argument :=
  c.arguments.find? fun a => a.short == some letter

/-- The argument of an id. -/
def argument? (c : Subcommand) (id : String) : Option Argument :=
  c.arguments.find? fun a => a.id == id

end Subcommand

/-! ### The program -/

/-- The options that stand before a subcommand or after it. -/
def commonOptions : List Argument :=
  [{ id := "workspace", long := some "workspace", valueName := "dir"
     help := "Root directory of the workspace. Defaults to the current working directory." },
   { id := "verbose", long := some "verbose", purpose := .flag
     help := "Prints additional diagnostic information." }]

/-- The option that asks for help. -/
def helpOption (words : String) : Argument :=
  { id := "help", long := some "help", short := some 'h', purpose := .help, help := words }

/-- The option that asks for the version. -/
def versionOption : Argument :=
  { id := "version", long := some "version", short := some 'V', purpose := .version
    help := "Print version" }

/-- The file to format. -/
def fileArgument : Argument :=
  { id := "file", valueName := "file", required := true, help := "Path of the file to format." }

/-- The language of the file. -/
def languageOption : Argument :=
  { id := "language", long := some "language", valueName := "id"
    help := "Language id of the file. Detected from the file extension when not provided." }

/-- A subcommand with its own arguments, those in common and the one that asks for help. -/
def subcommand (name about : String) (longAbout : Option String) (arguments : List Argument) :
    Subcommand :=
  { usageName := s!"{Settings.programName} {name}", name, about, longAbout
    arguments := arguments ++ commonOptions ++ [helpOption "Print help"] }

/-- The subcommands that do something. -/
def workingSubcommands : List Subcommand :=
  [subcommand "fmt"
     ("Formats a file with its language's formatter chain and writes the result to the file "
       ++ "system.")
     (some ("Formats a file with its language's formatter chain and writes the result to the file "
       ++ "system.\n\nThe file's text is treated as an unsaved edit, so the chain always runs. "
       ++ "Running it again on already formatted text reports that there were no changes."))
     [fileArgument, languageOption,
       { id := "range", long := some "range", valueName := "start:end"
         help := "Byte range of a selection to format. The whole document is formatted." }],
   subcommand "stdin-fmt"
     "Formats stdin as the provided file and outputs the result to stdout."
     (some ("Formats stdin as the provided file and outputs the result to stdout.\n\n"
       ++ "The text is treated as an unsaved edit, so the chain always runs. "
       ++ "Formatters that rewrite files on disk are skipped."))
     [fileArgument, languageOption],
   subcommand "run-command" "Runs one of the commands listed by `chainfmt commands`." none
     [{ id := "command-id", valueName := "command-id", required := true },
       { id := "file", valueName := "file" }],
   subcommand "commands" "Lists the available commands." none [],
   subcommand "resolve" "Prints the formatter chain and options resolved for a language." none
     [{ id := "language", valueName := "language", required := true }],
   subcommand "check-conflicts"
     "Checks for languages the host formats on save with its own formatter." none
     [{ id := "watch", long := some "watch", purpose := .flag
        help := "Keeps checking whenever a settings file changes." }],
   subcommand "version" "Outputs the version." none []]

/-- The subcommand that shows help. -/
def helpSubcommand : Subcommand :=
  { usageName := s!"{Settings.programName} help"
    name := "help"
    about := "Print this message or the help of the given subcommand(s)"
    arguments :=
      [{ id := "subcommand", valueName := "COMMAND", repeatable := true
         help := "Print help for the subcommand(s)" }] }

/-- All subcommands. -/
def subcommands : List Subcommand := workingSubcommands ++ [helpSubcommand]

/-- The program itself. -/
def program : Subcommand :=
  { usageName := Settings.programName
    name := Settings.programName
    about := "Runs a chain of formatters over a document and produces a single edit."
    arguments := commonOptions ++ [helpOption "Print help", versionOption]
    inner := subcommands.map (·.name)
    usageLine := some s!"{Settings.programName} <SUBCOMMAND> [OPTIONS]" }

/-- The subcommand of a name. -/
def subcommand? (name : String) : Option Subcommand :=
  subcommands.find? fun c => c.name == name

end FormatChain.CommandLine

/-!
## Help

How a subcommand is used, in one line and at length.  Arguments and options are listed in two
columns, or with the words below each where there is more to say.
-/

namespace FormatChain.CommandLine

open FormatChain.Text

/-! ### Usage -/

/-- How the arguments by place are shown, those asked for as if they had to be there. -/
def Subcommand.shownPositionals (c : Subcommand) (used : List String) : List String :=
  c.positionals.map fun a => a.shownAs (a.required || used.contains a.id)

/-- How the used options are shown. -/
def Subcommand.shownOptions (c : Subcommand) (used : List String) : List String :=
  used.eraseDups.filterMap fun id => (c.options.find? fun a => a.id == id).map Argument.shown

/-- How a subcommand is used, in general or with some arguments. -/
def Subcommand.usage (c : Subcommand) (used : List String) : String :=
  match c.usageLine with
  | some line => line
  | none =>
    let options :=
      if used.isEmpty then if c.options.isEmpty then [] else ["[OPTIONS]"]
      else c.shownOptions used
    joined " " (c.usageName :: options ++ c.shownPositionals used)

/-! ### Columns -/

/-- What stands before the words for an argument. -/
def Argument.heading (a : Argument) : String :=
  match a.long, a.short with
  | none, _ => "  " ++ a.shown
  | some _, some letter => s!"  -{letter}, {a.shown}"
  | some _, none => "      " ++ a.shown

/-- Lines of two columns. -/
def columns (rows : List (String × String)) : List String :=
  let width := (rows.map (·.1.length)).foldl max 0
  rows.map fun (left, right) => padEnd (width + 2) left ++ right

/-- The words for an argument, those for help depending on whether there is more to say. -/
def Argument.words (a : Argument) (helpWords : String) : String :=
  if a.purpose = .help then helpWords else a.help

/-- A list of arguments, in two columns or with the words below each. -/
def argumentLines (long : Bool) (helpWords : String) (arguments : List Argument) : String :=
  if long then
    joined "\n\n" (arguments.map fun a =>
      a.heading ++ "\n          " ++ a.words helpWords)
  else joined "\n" (columns (arguments.map fun a => (a.heading, a.words helpWords)))

/-! ### Texts -/

/-- A part of the help under a title, if it has lines. -/
def section? (title text : String) : List String :=
  if text.isEmpty then [] else [title ++ "\n" ++ text]

/-- The help for a subcommand, at length or in short. -/
def Subcommand.helpText (c : Subcommand) (long : Bool) : String :=
  let long := long && c.longAbout.isSome
  let helpWords :=
    if c.longAbout.isNone then "Print help"
    else if long then "Print help (see a summary with '-h')"
    else "Print help (see more with '--help')"
  let about := if long then c.longAbout.getD c.about else c.about
  joined "\n\n"
      ([about, "Usage: " ++ c.usage []]
        ++ section? "Arguments:" (argumentLines long helpWords c.positionals)
        ++ section? "Options:" (argumentLines long helpWords c.options))
    ++ "\n"

/-- What the help for the program says about its first use. -/
def gettingStarted : List String :=
  ["GETTING STARTED:",
   "  1. Create .chainfmt/settings.json in the root directory of a workspace.",
   "  2. Add the formatters to run:",
   "",
   "       \x7b",
   "         \"chainfmt.formatters\": [\"eslint\"],",
   "         \"chainfmt.formatterCommands\": \x7b",
   "           \"eslint\": \x7b \"command\": \"eslint_d\", \"args\": [\"--fix-to-stdout\", "
     ++ "\"--stdin\"] \x7d",
   "         \x7d",
   "       \x7d",
   "",
   "  3. Run `chainfmt fmt <file>`.",
   "",
   "EXAMPLES:",
   "  Format a file and write the result to the file system:",
   "",
   "    chainfmt fmt src/main.ts",
   "",
   "  Format stdin as a file and output the result to stdout:",
   "",
   "    cat src/main.ts | chainfmt stdin-fmt src/main.ts",
   "",
   "  Show the formatters that would run for a language:",
   "",
   "    chainfmt resolve typescript"]

/-- The help for the program that lists some subcommands and options. -/
def mainHelpWith (listed : List Subcommand) (options : List Argument) : String :=
  joined "\n"
      ([s!"{Settings.programName} {Settings.programVersion}", "", program.about, "", "USAGE:",
          "    " ++ program.usage [], "", "SUBCOMMANDS:"]
        ++ (columns (listed.map fun c => ("  " ++ c.name, c.about)))
        ++ ["", "More details at `chainfmt help <SUBCOMMAND>`", "", "OPTIONS:",
          argumentLines false "Print help" options, "", "ENVIRONMENT VARIABLES:",
          "  CHAINFMT_GLOBAL_SETTINGS  Path to the global settings file. Defaults to",
          "                            chainfmt/settings.json in the config directory.", ""]
        ++ gettingStarted)
    ++ "\n"

/-- The help for the program, which leaves out the ways to get it. -/
def mainHelp : String := mainHelpWith workingSubcommands commonOptions

/-- The help for the program that one of the ways to get it leads to. -/
def fullHelp : String := mainHelpWith subcommands program.options

end FormatChain.CommandLine
