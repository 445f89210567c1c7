import FormatChain.Process.Bytes

/-!
# Scripts for a shell

A script is made of commands, commands are made of words, and words of parts.  A part stands for
itself, for the value of a variable, for what a command writes, or for the value of a sum.

* `Dialect` : the language of a shell.
* `Part`, `Action` : what words are made of, and what is done with a value.
* `Command`, `Clause`, `Redirect` : what scripts are made of.
* `Fault` : why a text is no script.
-/

namespace FormatChain.Shell

open FormatChain.Process

/-- The language of a shell. -/
inductive Dialect where
  /-- The common language. -/
  | common
  /-- The language with arrays and conditions in brackets. -/
  | rich
  deriving Repr, DecidableEq, Inhabited

/-- Where a stream of a command comes from or goes to. -/
inductive RedirectKind where
  /-- It comes from a file. -/
  | read
  /-- It goes to a file that is emptied first. -/
  | write
  /-- It goes to a file that is emptied first, whatever the settings say. -/
  | clobber
  /-- It goes to the end of a file. -/
  | append
  /-- It comes from a file and goes to it. -/
  | both
  /-- It is where another stream comes from. -/
  | sameInput
  /-- It is where another stream goes to. -/
  | sameOutput
  /-- The output and the complaints go to a file. -/
  | everything
  /-- The output and the complaints go to the end of a file. -/
  | everythingAppended
  /-- It comes from the word itself. -/
  | word
  deriving Repr, DecidableEq, Inhabited

/-- How letters are changed. -/
inductive Casing where
  /-- To capital ones. -/
  | capital
  /-- To small ones. -/
  | small
  /-- Each to the other kind. -/
  | turned
  deriving Repr, DecidableEq, Inhabited

/-- What follows a case after its commands. -/
inductive CaseEnd where
  /-- Nothing. -/
  | stop
  /-- The commands of the next case, whatever its patterns are. -/
  | through
  /-- The next case that fits. -/
  | onward
  deriving Repr, DecidableEq, Inhabited

mutual

/-- A part of a word. -/
inductive Part where
  /-- Bytes that stand in no quotes. -/
  | text (bytes : Bytes)
  /-- Bytes each of which stands for itself. -/
  | literal (bytes : Bytes)
  /-- Parts in double quotes. -/
  | quotes (parts : List Part)
  /-- The value of a name, of an element of an array, or of the name that a value is. -/
  | value (indirect : Bool) (name : Bytes) (index : List Part) (action : Action)
  /-- What a command writes. -/
  | output (command : Command)
  /-- The value of a sum. -/
  | sum (parts : List Part)
  /-- The elements of an array. -/
  | elements (words : List (List Part))
  /-- The path of a file that a command writes, or that a command reads. -/
  | channel (written : Bool) (command : Command)

/-- What is done with a value. -/
inductive Action where
  /-- Nothing. -/
  | plain
  /-- It is counted. -/
  | length
  /-- Nobody knows. It is known how it is written. -/
  | unknown (written : Bytes)
  /-- Another text takes its place if it is not set, or empty too. -/
  | otherwise (orEmpty : Bool) (word : List Part)
  /-- Another text takes its place if it is set, and not empty. -/
  | instead (orEmpty : Bool) (word : List Part)
  /-- It gets another value if it is not set, or empty too. -/
  | assign (orEmpty : Bool) (word : List Part)
  /-- All ends if it is not set, or empty too. -/
  | demand (orEmpty : Bool) (word : List Part)
  /-- What fits a pattern is cut off. -/
  | trim (atEnd longest : Bool) (pattern : List Part)
  /-- Only a part of it is left. -/
  | slice (start : List Part) (count : List Part) (counted : Bool)
  /-- What fits a pattern gives way to another text: at any place, at the start or at the end. -/
  | replace (every : Bool) (place : Option Bool) (pattern word : List Part)
  /-- Its letters are changed that fit a pattern, if there is one: the first one or all. -/
  | casing (casing : Casing) (every : Bool) (pattern : List Part)
  /-- It is shown in another way, which a letter tells. -/
  | shown (letter : Char)
  /-- Not it is meant but the names that start with its name. -/
  | names (starred : Bool)

/-- A redirection of a stream. -/
inductive Redirect where
  /-- To a place that a word names; the number of the stream may be left out. -/
  | named (stream : Option Nat) (kind : RedirectKind) (target : List Part)
  /-- From a text in the script, which is known by a number. -/
  | document (stream : Option Nat) (number : Nat)

/-- A command. -/
inductive Command where
  /-- No command. -/
  | nothing
  /-- A command with its arguments, and how its words are written. -/
  | simple (line : Nat) (assignments words : List (List Part)) (redirects : List Redirect) (written : Bytes)
  /-- Commands each of which gets what the one before it writes. -/
  | piped (stages : List Command)
  /-- A command whose result is turned round. -/
  | not (command : Command)
  /-- The second command follows if all is well. -/
  | and (first second : Command)
  /-- The second command follows if something is wrong. -/
  | or (first second : Command)
  /-- The second command follows. -/
  | sequence (first second : Command)
  /-- A command that nobody waits for. -/
  | background (line : Nat) (command : Command)
  /-- One command or another. -/
  | choice (condition yes no : Command)
  /-- A command again and again, while a condition holds or until it does. -/
  | loop (untilHolds : Bool) (condition body : Command)
  /-- A command for each of some words. -/
  | each (line : Nat) (name : Bytes) (words : List (List Part)) (body : Command)
  /-- A command again and again, with sums before it, between, and after it. -/
  | counted (line : Nat) (first test next : List Part) (body : Command)
  /-- The first command a pattern of which a word fits, and what follows it. -/
  | select (line : Nat) (word : List Part) (cases : List (List (List Part) × Command × CaseEnd))
  /-- A command for each word that is chosen from some. -/
  | menu (line : Nat) (name : Bytes) (words : List (List Part)) (body : Command)
  /-- A command gets a name. -/
  | define (line : Nat) (name : Bytes) (body : Command)
  /-- A command whose streams lead elsewhere. -/
  | redirected (line : Nat) (command : Command) (redirects : List Redirect)
  /-- A command in a shell of its own. -/
  | subshell (line : Nat) (command : Command) (redirects : List Redirect)
  /-- A condition. -/
  | condition (line : Nat) (clause : Clause)
  /-- A sum that is a condition. -/
  | computed (line : Nat) (sum : List Part)

/-- A condition in double brackets. -/
inductive Clause where
  /-- An operator before a word. -/
  | unary (op : Bytes) (word : List Part)
  /-- An operator between two words. -/
  | binary (left : List Part) (op : Bytes) (right : List Part)
  /-- A condition that is turned round. -/
  | not (a : Clause)
  /-- Both conditions. -/
  | and (a b : Clause)
  /-- One of two conditions. -/
  | or (a b : Clause)

end

instance : Inhabited Part := ⟨.text []⟩
instance : Inhabited Action := ⟨.plain⟩
instance : Inhabited Command := ⟨.nothing⟩
instance : Inhabited Redirect := ⟨.document none 0⟩
instance : Inhabited Clause := ⟨.unary [] []⟩

/-- A word. -/
abbrev Word := List Part

/-- The bytes of a word that stands in no quotes and has no values. -/
def plainText? : Word → Option Bytes
  | [.text bytes] => some bytes
  | _ => none

/-- Whether a byte may stand in a name. -/
def isNameByte (c : Char) : Bool := c.isAlphanum || c = '_'

/-- Whether a byte may be the first of a name. -/
def isNameStart (c : Char) : Bool := c.isAlpha || c = '_'

/-- Whether bytes are a name. -/
def isName (bytes : Bytes) : Bool :=
  match bytes with
  | c :: rest => isNameStart c && rest.all isNameByte
  | [] => false

/-- Whether a byte is the name of a value that the shell gives. -/
def isSpecialName (c : Char) : Bool := ['!', '#', '$', '*', '-', '?', '@'].contains c || c.isDigit

/-! ## Faults -/

/-- What may stand in a script. -/
inductive Token where
  /-- The end of the script. -/
  | ending
  /-- The end of a line. -/
  | newline
  /-- A sign: `;`, `&`, `&&`, `||`, `|`, `(`, `)`, `;;` or, in the rich language, `|&`, `;&` or `;;&`. -/
  | sign (text : String)
  /-- The start of a redirection. -/
  | redirect (stream : Option Nat) (sign : String)
  /-- A word that has a meaning for the shell. -/
  | keyword (text : String)
  /-- Another word, whether a part of it is quoted, and the bytes that it is written with. -/
  | word (word : Word) (quoted : Bool) (written : Bytes)
  deriving Inhabited

/-- A token as faults show it. -/
def Token.shown : Token → String
  | .ending => "end of file"
  | .newline => "newline"
  | .sign text => s!"\"{text}\""
  | .redirect _ _ => "redirection"
  | .keyword text => s!"\"{text}\""
  | .word _ _ _ => "word"

/-- Why a text is no script. -/
inductive Fault where
  /-- Something stands where it must not, and something else was expected if that is known. -/
  | unexpected (token : Token) (expected : Option Token)
  /-- Quotes have no end. -/
  | openQuotes
  /-- Braces have no end. -/
  | openBraces
  /-- A sum has no end. -/
  | openSum
  /-- What looked like a sum is none. -/
  | noSum
  /-- The backquotes around a command have no end. -/
  | openBackquotes
  /-- The name of a loop is none. -/
  | badLoopName
  /-- The name of a function is none. -/
  | badFunctionName
  /-- The bytes that end something are missing. -/
  | missing (mark : Char)
  /-- The parenthesis that ends a command in a word is missing. -/
  | openCommand
  /-- The parenthesis that ends the elements of an array is missing. -/
  | openElements
  /-- Something is wrong with a condition in brackets. How many bytes follow it is known, too. -/
  | badClause (words : Option String) (left : Nat)
  /-- The script is nested too deep. -/
  | tooDeep

/-- How long the wording of what is unexpected may be. -/
def Fault.limit : Nat := 63

/-- The wording of a fault. -/
def Fault.message : Fault → String
  | .unexpected token none => (s!"{token.shown} unexpected".take limit).toString
  | .unexpected token (some other) =>
    (s!"{token.shown} unexpected (expecting {other.shown})".take limit).toString
  | .openQuotes => "Unterminated quoted string"
  | .openBraces => "Missing '\x7d'"
  | .openSum => "Missing '))'"
  | .noSum => "Missing '))'"
  | .openBackquotes => "EOF in backquote substitution"
  | .badLoopName => "Bad for loop variable"
  | .badFunctionName => "Bad function name"
  | .missing mark => s!"Missing '{textOf [mark]}'"
  | .openCommand => "Missing ')'"
  | .openElements => "Missing ')'"
  | .badClause words _ => words.getD "bad condition"
  | .tooDeep => "nested too deep"

end FormatChain.Shell
