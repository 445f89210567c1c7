import FormatChain.Process.Escape
import FormatChain.Shell.State

/-!
# Variables as they are declared

Variables are shown as declarations, with their values quoted as the shell reads them.

* `dollarQuoted` : a word with escapes between quotes after a dollar sign.
* `backslashed` : a word with a backslash before each byte that has a meaning.
* `singleQuoted` : a word in single quotes.
* `doubleQuoted` : a word in double quotes.
* `wordQuoted`, `valueShown`, `elementShown` : a word, a value and an element of an array as they are
  shown.
* `Variable.letters` : the attributes.
* `Variable.elementsShown` : the elements of an array.
* `Variable.declared`, `Variable.assigned` : a variable as a command that declares it, or that gives it its
  value.
-/

/-!
## Words as the shell reads them

A value that the shell shows is written so that it reads it back as the same word.
-/

namespace FormatChain.Shell

open FormatChain.Process

/-- The byte of a word between quotes after a dollar sign. -/
def dollarByte (c : Char) : Bytes :=
  if c = '\'' || c = '\\' then ['\\', c]
  else if c = '\x1b' then ['\\', 'E']
  else if isPrintByte c then [c]
  else escapedByte c

/-- A word with escapes between quotes after a dollar sign. -/
def dollarQuoted (bytes : Bytes) : Bytes := '$' :: '\'' :: bytes.flatMap dollarByte ++ ['\'']

/-- Whether a word can only be shown with escapes. -/
def needsDollar (bytes : Bytes) : Bool := bytes.any fun c => !isPrintByte c

/-- The bytes that have a meaning in words wherever they stand. -/
def meaningBytes : List Char :=
  [' ', '\t', '\n', '!', '"', '$', '&', '\'', '(', ')', '*', ',', ';', '<', '>', '?', '[', '\\', ']', '^',
    '\x60', '\x7b', '|', '\x7d']

/-- A word with a backslash before each byte that has a meaning; the byte before it is given. -/
def backslashedFrom : Option Char → Bytes → Bytes
  | _, [] => []
  | before, c :: rest =>
    let marked := meaningBytes.contains c || (c = '#' && before.isNone)
      || (c = '~' && (before.isNone || before = some ':' || before = some '='))
    (if marked then ['\\', c] else [c]) ++ backslashedFrom (some c) rest

/-- A word with a backslash before each byte that has a meaning. -/
def backslashed (bytes : Bytes) : Bytes := backslashedFrom none bytes

/-- A word in single quotes. A quote in it stands alone with a backslash. -/
def singleQuoted (bytes : Bytes) : Bytes :=
  if bytes = ['\''] then ['\\', '\'']
  else '\'' :: bytes.flatMap (fun c => if c = '\'' then ['\'', '\\', '\'', '\''] else [c]) ++ ['\'']

/-- A word in double quotes. -/
def doubleQuoted (bytes : Bytes) : Bytes :=
  '"' :: bytes.flatMap (fun c => if ['"', '$', '\x60', '\\'].contains c then ['\\', c] else [c]) ++ ['"']

/-- A word so that it is read back. -/
def wordQuoted (bytes : Bytes) : Bytes :=
  if bytes.isEmpty then ['\'', '\'']
  else if needsDollar bytes then dollarQuoted bytes
  else backslashed bytes

/-- Whether a word has bytes with a meaning; the byte before it is given. -/
def hasMeaning : Option Char → Bytes → Bool
  | _, [] => false
  | before, c :: rest =>
    (meaningBytes.contains c && c != ',') || (c = '#' && before.isNone)
      || (c = '~' && (before.isNone || before = some ':' || before = some '='))
      || hasMeaning (some c) rest

/-- The value of a variable in a list of variables. -/
def valueShown (bytes : Bytes) : Bytes :=
  if needsDollar bytes then dollarQuoted bytes
  else if hasMeaning none bytes then singleQuoted bytes
  else bytes

/-- An element of an array, or the value of a declared variable. -/
def elementShown (bytes : Bytes) : Bytes :=
  if needsDollar bytes then dollarQuoted bytes else doubleQuoted bytes

end FormatChain.Shell

/-!
## Variables as they are declared

A variable is shown as the command that declares it: its attributes as letters, its name, and its value
or its elements.
-/

namespace FormatChain.Shell

open FormatChain.Process

namespace Variable

/-- The letters of the attributes. -/
def letters (v : Variable) : Bytes :=
  let marks : List (Bool × Char) := [(v.elements.isSome && !v.keyed, 'a'), (v.keyed, 'A'), (v.numeric, 'i'),
    (v.reference, 'n'), (v.constant, 'r'), (v.traced, 't'), (v.exported, 'x'), (v.casing = some .turned, 'c'),
    (v.casing = some .small, 'l'), (v.casing = some .capital, 'u')]
  marks.filterMap fun (holds, letter) => if holds then some letter else none

/-- The key of an element. -/
def keyShown (key : Bytes) : Bytes :=
  if needsDollar key then dollarQuoted key
  else if hasMeaning none key || key = ['@'] then doubleQuoted key
  else key

/-- The elements of an array. -/
def elementsShown (v : Variable) : Bytes :=
  let shown := v.listed.map fun (key, bytes) => '[' :: keyShown key ++ [']', '='] ++ elementShown bytes
  '(' :: joinWith [' '] shown ++ (if v.keyed && !shown.isEmpty then [' ', ')'] else [')'])

/-- The variable of a name as the command that declares it. -/
def declared (v : Variable) (name : Bytes) : Bytes :=
  let letters := if v.letters.isEmpty then ['-'] else v.letters
  let value := match v.elements, v.value with
    | some elements, _ => if elements.isEmpty && !v.given then [] else '=' :: v.elementsShown
    | none, some bytes => '=' :: elementShown bytes
    | none, none => []
  bytesOf "declare -" ++ letters ++ ' ' :: name ++ value

/-- The variable of a name as the command that gives it its value. -/
def assigned (v : Variable) (name : Bytes) : Bytes :=
  let shown (bytes : Bytes) : Bytes := if needsDollar bytes then dollarQuoted bytes else singleQuoted bytes
  let before := if v.letters.isEmpty then [] else bytesOf "declare -" ++ v.letters ++ [' ']
  match v.elements, v.value with
  | some _, _ => before ++ name ++ '=' :: v.elementsShown
  | none, some bytes => before ++ name ++ '=' :: shown bytes
  | none, none => if v.letters.isEmpty then [] else before ++ name

end Variable

end FormatChain.Shell
